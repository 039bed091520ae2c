import KuryrKubernetes.Nested.Vlan

/-!
# Failed requests for VLAN ports

What is left behind where a request raises or creates nothing.  A request that returns is told
by its answers; one that does not leaves everything that it has acquired.
-/

namespace KuryrKubernetes.Nested

open KuryrKubernetes.Data
open KuryrKubernetes.Effect

/-! ## What stays -/

/-- Ports that were created stay, with the note about them. -/
def portsStay : Frame Site where
  rel before after := ∀ port, port ∈ before.created ∧ port ∈ before.ports →
    port ∈ after.created ∧ port ∈ after.ports
  refl _ _ := id
  trans first second port given := second port (first port given)

/-- Segmentation ids that were allocated stay taken. -/
def idsStay : Frame Site where
  rel before after := ∀ id, id ∈ before.allocated ∧ id ∈ before.taken →
    id ∈ after.allocated ∧ id ∈ after.taken
  refl _ _ := id
  trans first second id_ given := second id_ (first id_ given)

section

variable {endings : Call → Ending PyException} {segDriver : SegmentationDriver}
  {frame : Frame Site}

theorem tagNeutronResources_keeps (resourceTags : List String) (attempt : Nat)
    (ports : List Nat) : frame.Keeps (tagNeutronResources endings resourceTags attempt ports) := by
  unfold tagNeutronResources
  split
  · exact Frame.keeps_pure _
  · apply Frame.Keeps.forM
    intro port _
    apply (keeps_serve (Frame.keeps_pure _)).tryCatch
    intro exception
    split
    · exact Frame.keeps_pure _
    · exact Frame.keeps_throw _

theorem getTrunk_keeps (attempt : Nat) (trunkId : String) :
    frame.Keeps (getTrunk endings attempt trunkId) := by
  apply keeps_serve
  apply Frame.keeps_get.bind
  intro site
  split
  · exact Frame.keeps_throw _
  · exact Frame.keeps_pure _

theorem addTrunkSubports_keeps
    (attaches : ∀ site trunks, frame.rel site { site with trunks }) (attempt : Nat)
    (trunkId : String) (infos : List SubportInfo) :
    frame.Keeps (addTrunkSubports endings attempt trunkId infos) := by
  apply keeps_serve
  intro site
  rw [exec_get_bind]
  split
  · exact frame.refl site
  · split
    · exact frame.refl site
    · split
      · exact frame.refl site
      · exact attaches site _

theorem allocateSegmentationId_keeps
    (takes : ∀ site id, frame.rel site (site.took id)) (inUse : List Nat) :
    frame.Keeps (allocateSegmentationId segDriver inUse) := by
  intro site
  unfold allocateSegmentationId
  rw [exec_get_bind]
  split
  · exact frame.refl site
  · exact takes site _

end

theorem portsStay_took (site : Site) (id : Nat) : portsStay.rel site (site.took id) :=
  fun _ given => given

theorem idsStay_took (site : Site) (id : Nat) : idsStay.rel site (site.took id) := by
  intro other given
  exact ⟨List.mem_cons_of_mem id given.1, List.mem_cons_of_mem id given.2⟩

namespace VlanRequest

variable {request : VlanRequest}

theorem getVlanId_keeps_ports (attempt : Nat) (trunkId : String) :
    portsStay.Keeps (request.getVlanId attempt trunkId) := by
  apply Frame.Keeps.bind
  · apply (getTrunk_keeps attempt trunkId).bind
    intro _
    exact Frame.keeps_pure _
  · intro vlanIds
    exact allocateSegmentationId_keeps portsStay_took vlanIds

theorem addSubportLoop_keeps_ports (trunkId : String) (left attempt : Nat)
    (subport : Option Nat) :
    portsStay.Keeps (request.addSubportLoop trunkId left attempt subport) := by
  induction left generalizing attempt subport with
  | zero => exact Frame.keeps_throw _
  | succ left ih =>
      apply (getVlanId_keeps_ports attempt trunkId).bind
      intro vlanId
      apply Frame.Keeps.bind
      · apply Frame.Keeps.tryCatch
        · apply (addTrunkSubports_keeps (fun _ _ _ => id) attempt trunkId _).bind
          intro _
          exact Frame.keeps_pure _
        · intro exception
          split
          · exact Frame.keeps_pure _
          · exact Frame.keeps_throw _
      · intro added
        split
        · exact Frame.keeps_pure _
        · exact ih (attempt + 1) none

theorem deletePort_keeps_ids {endings : Call → Ending PyException} (attempt port : Nat) :
    idsStay.Keeps (deletePort endings attempt port) :=
  keeps_serve (Frame.keeps_modify fun _ _ given => given)

theorem attachSubports_keeps_ids (trunkId : String) (infos : List SubportInfo)
    (ports : List Nat) : idsStay.Keeps (request.attachSubports trunkId infos ports) := by
  have deletes (attempt : Nat) :
      idsStay.Keeps (ports.forM (deletePort request.endings attempt)) :=
    Frame.Keeps.forM fun port _ => deletePort_keeps_ids attempt port
  apply Frame.Keeps.tryCatch
  · apply Frame.Keeps.tryCatch
    · apply (addTrunkSubports_keeps (fun _ _ _ => id) 0 trunkId infos).bind
      intro _
      exact Frame.keeps_pure _
    · intro exception
      split
      · apply (deletes 0).bind
        intro _
        exact Frame.keeps_pure _
      · exact Frame.keeps_throw _
  · intro exception
    split
    · apply (deletes 1).bind
      intro _
      exact Frame.keeps_pure _
    · exact Frame.keeps_throw _

end VlanRequest

/-! ## Where requests return -/

/-- No tagging of the ports fails but in Neutron. -/
def TagsHarmless (endings : Call → Ending PyException) (resourceTags : List String)
    (attempt : Nat) (ports : List Nat) : Prop :=
  resourceTags = [] ∨ ∀ port ∈ ports, ∀ exception,
    (endings (.setTags port attempt)).exception? = some exception → exception.isSdkException

section

variable {endings : Call → Ending PyException} {site : Site}

theorem setTags_leads (port attempt : Nat) (site : Site) :
    Leads (fun before => before = site)
      (tryCatch (serve endings (.setTags port attempt) (pure ⟨⟩) : NestedM PUnit) fun ex =>
        if ex.isSdkException then pure ⟨⟩ else throw ex)
      (fun _ after => after = site ∧ ∀ exception,
        (endings (.setTags port attempt)).exception? = some exception → exception.isSdkException)
      fun _ _ => ¬∀ exception,
        (endings (.setTags port attempt)).exception? = some exception →
          exception.isSdkException := by
  have called : Leads (fun before => before = site)
      (serve endings (.setTags port attempt) (pure ⟨⟩) : NestedM PUnit)
      (fun _ after => after = site ∧ (endings (.setTags port attempt)).exception? = none)
      fun exception after => after = site ∧
        (endings (.setTags port attempt)).exception? = some exception := by
    rintro before rfl
    unfold serve Effect.serve
    rw [exec_get_bind]
    dsimp only
    cases ending : endings (.setTags port attempt) with
    | served =>
        apply leads_pure _ before rfl
        rintro _ rfl
        exact ⟨rfl, rfl⟩
    | refused exception =>
        apply leads_throw _ before rfl
        rintro _ rfl
        exact ⟨rfl, rfl⟩
    | cut exception =>
        dsimp only
        rw [exec_pure_bind]
        apply leads_throw _ before rfl
        rintro _ rfl
        exact ⟨rfl, rfl⟩
  apply Leads.tryCatch
  · apply called.mono
    · rintro _ after ⟨same, none_⟩
      refine ⟨same, ?_⟩
      intro exception ended
      rw [none_] at ended
      cases ended
    · exact fun _ _ ended => ended
  · intro exception
    split
    · rename_i isSdk
      apply leads_pure
      rintro after ⟨same, ended⟩
      refine ⟨same, ?_⟩
      intro other endedToo
      rw [ended] at endedToo
      cases endedToo
      exact isSdk
    · rename_i other
      apply leads_throw
      rintro after ⟨_, ended⟩ harmless
      exact other (harmless exception ended)

theorem tagNeutronResources_leads (resourceTags : List String) (attempt : Nat)
    (ports : List Nat) (site : Site) :
    Leads (fun before => before = site)
      (tagNeutronResources endings resourceTags attempt ports)
      (fun _ after => after = site ∧ TagsHarmless endings resourceTags attempt ports)
      fun _ _ => ¬TagsHarmless endings resourceTags attempt ports := by
  unfold tagNeutronResources TagsHarmless
  split
  · rename_i untagged
    apply leads_pure
    exact fun _ same => ⟨same, .inl untagged⟩
  · rename_i tagged
    have loop : Leads (fun before => before = site)
        (ports.forM fun port =>
          tryCatch (serve endings (.setTags port attempt) (pure ⟨⟩) : NestedM PUnit) fun ex =>
            if ex.isSdkException then pure ⟨⟩ else throw ex)
        (fun _ after => after = site ∧ ∀ port ∈ ports, ∀ exception,
          (endings (.setTags port attempt)).exception? = some exception →
            exception.isSdkException)
        fun _ _ => ¬∀ port ∈ ports, ∀ exception,
          (endings (.setTags port attempt)).exception? = some exception →
            exception.isSdkException := by
      induction ports with
      | nil =>
          apply leads_pure
          intro _ same
          refine ⟨same, ?_⟩
          rintro port ⟨⟩
      | cons port rest ih =>
          rw [forM_cons_eq]
          apply (setTags_leads port attempt site).bind_of
          · intro _ _ harmful harmless
            exact harmful (harmless port List.mem_cons_self)
          · intro _
            rintro middle ⟨rfl, harmless⟩
            apply ih.mono _ _ middle rfl
            · rintro _ after ⟨same, others⟩
              exact ⟨same, List.forall_mem_cons.mpr ⟨harmless, others⟩⟩
            · intro _ _ harmful all
              exact harmful (List.forall_mem_cons.mp all).2
    apply loop.mono
    · exact fun _ _ reached => ⟨reached.1, .inr reached.2⟩
    · rintro _ _ harmful (untagged | harmless)
      · exact tagged untagged
      · exact harmful harmless

theorem allocateSegmentationId_leads (segDriver : SegmentationDriver) (inUse : List Nat)
    (site : Site) :
    Leads (fun before => before = site) (allocateSegmentationId segDriver inUse)
      (fun id after => segDriver.allocate inUse site.taken = some id ∧ after = site.took id)
      fun exception after => exception = segmentationIdAllocationFailure ∧
        segDriver.allocate inUse site.taken = none ∧ after = site := by
  rintro before rfl
  unfold allocateSegmentationId
  rw [exec_get_bind]
  cases found : segDriver.allocate inUse before.taken with
  | none =>
      apply leads_throw _ before rfl
      rintro _ rfl
      exact ⟨rfl, rfl, rfl⟩
  | some id =>
      constructor
      · intro _ after ran
        cases ran
        exact ⟨rfl, rfl⟩
      · intro _ after ran
        cases ran

theorem getTrunk_leads (attempt : Nat) (trunkId : String) (site : Site) :
    Leads (fun before => before = site) (getTrunk endings attempt trunkId)
      (fun subports after => after = site ∧ endings (.getTrunk attempt) = .served ∧
        site.trunks.get? trunkId = some subports)
      fun _ after => after = site ∧
        (endings (.getTrunk attempt) = .served → site.trunks.get? trunkId = none) := by
  rintro before rfl
  have stays : exec (getTrunk endings attempt trunkId) before =
      ((exec (getTrunk endings attempt trunkId) before).1, before) := by
    have kept : (Frame.same fun site : Site => site).Keeps (getTrunk endings attempt trunkId) :=
      getTrunk_keeps attempt trunkId
    have same : (exec (getTrunk endings attempt trunkId) before).2 = before := kept before
    exact Prod.ext rfl same
  constructor
  · intro subports after ran
    rw [ran] at stays
    rcases served_of_returns ran with ⟨served, operated⟩
    rw [exec_get_bind] at operated
    cases known : before.trunks.get? trunkId with
    | none =>
        rw [known] at operated
        cases operated
    | some others =>
        rw [known] at operated
        cases operated
        exact ⟨rfl, served, rfl⟩
  · intro exception after ran
    rw [ran] at stays
    constructor
    · exact congrArg Prod.snd stays
    · intro served
      unfold getTrunk at ran
      rw [exec_serve_of_served served, exec_get_bind] at ran
      cases known : before.trunks.get? trunkId with
      | none => rfl
      | some others =>
          rw [known] at ran
          cases ran

/-- Subports of ports, under ids that are not used on the trunk, are attached where the call
is served. -/
theorem addTrunkSubports_leads (attempt : Nat) (trunkId : String) {infos : List SubportInfo}
    {subports : List SubportInfo} {site : Site} (known : site.trunks.get? trunkId = some subports)
    (ids : ∀ info ∈ infos, info.portId.isSome)
    (unused : ∀ info ∈ infos, info.segmentationId ∉ subports.map (·.segmentationId)) :
    Leads (fun before => before = site) (addTrunkSubports endings attempt trunkId infos)
      (fun _ _ => endings (.addTrunkSubports attempt) = .served)
      fun _ _ => endings (.addTrunkSubports attempt) ≠ .served := by
  rintro before rfl
  unfold addTrunkSubports
  by_cases ending : endings (.addTrunkSubports attempt) = .served
  · rw [exec_serve_of_served ending, exec_get_bind, known]
    dsimp only
    rw [if_neg, if_neg]
    · constructor
      · exact fun _ _ _ => ending
      · intro _ _ ran
        cases ran
    · intro conflict
      rcases List.any_eq_true.mp conflict with ⟨info, listed, used⟩
      rcases List.any_eq_true.mp used with ⟨other, there, same⟩
      apply unused info listed
      rw [← of_decide_eq_true same]
      exact List.mem_map_of_mem there
    · intro bad
      rcases List.any_eq_true.mp bad with ⟨info, listed, none_⟩
      have some_ := ids info listed
      rw [Option.isNone_iff_eq_none] at none_
      rw [none_] at some_
      cases some_
  · constructor
    · intro value after ran
      exact (served_of_returns ran).1
    · exact fun _ _ _ => ending

/-- What is no port is not attached. -/
theorem addTrunkSubports_none_leads (attempt : Nat) (trunkId : String) (vlanId : Nat) :
    Leads (fun _ : Site => True) (addTrunkSubports endings attempt trunkId [⟨vlanId, none⟩])
      (fun _ _ => False) fun _ _ => True := by
  intro before _
  constructor
  · intro value after ran
    have operated := (served_of_returns ran).2
    rw [exec_get_bind] at operated
    split at operated
    · cases operated
    · cases operated
  · exact fun _ _ _ => trivial

end

namespace VlanRequest

variable {request : VlanRequest} {site : Site} {trunkId : String}

/-- A segmentation id is found for the trunk. -/
def VlanIdFound (request : VlanRequest) (attempt : Nat) (trunkId : String) (site : Site)
    (vlanId : Nat) : Prop :=
  request.endings (.getTrunk attempt) = .served ∧ ∃ subports,
    site.trunks.get? trunkId = some subports ∧
      request.segDriver.allocate (subports.map (·.segmentationId)) site.taken = some vlanId

theorem VlanIdFound.unique {attempt : Nat} {first second : Nat}
    (found : request.VlanIdFound attempt trunkId site first)
    (other : request.VlanIdFound attempt trunkId site second) : first = second := by
  rcases found with ⟨_, subports, known, allocated⟩
  rcases other with ⟨_, same, knownToo, allocatedToo⟩
  rw [known] at knownToo
  cases knownToo
  rw [allocated] at allocatedToo
  exact Option.some.inj allocatedToo

theorem getVlanId_leads (attempt : Nat) (trunkId : String) (site : Site) :
    Leads (fun before => before = site) (request.getVlanId attempt trunkId)
      (fun vlanId after => request.VlanIdFound attempt trunkId site vlanId ∧
        after = site.took vlanId)
      fun _ _ => ∀ vlanId, ¬request.VlanIdFound attempt trunkId site vlanId := by
  unfold getVlanId getInUseVlanIdsSet
  rw [bind_assoc]
  apply (getTrunk_leads attempt trunkId site).bind_of
  · rintro _ _ ⟨_, missing⟩ vlanId ⟨served, subports, known, _⟩
    rw [missing served] at known
    cases known
  · intro subports
    rintro middle ⟨rfl, served, known⟩
    rw [exec_pure_bind]
    apply (allocateSegmentationId_leads request.segDriver _ middle).mono _ _ middle rfl
    · rintro vlanId after ⟨allocated, same⟩
      exact ⟨⟨served, subports, known, allocated⟩, same⟩
    · rintro _ _ ⟨_, exhausted, _⟩ vlanId ⟨_, others, knownToo, allocated⟩
      rw [known] at knownToo
      cases knownToo
      rw [exhausted] at allocated
      cases allocated

/-- After a conflict no subport is added any more. -/
theorem addSubportLoop_none_leads (request : VlanRequest) (trunkId : String) (left attempt : Nat) :
    Leads (fun _ : Site => True) (request.addSubportLoop trunkId left attempt none)
      (fun _ _ => False) fun _ _ => True := by
  induction left generalizing attempt with
  | zero => exact leads_throw fun _ _ => trivial
  | succ left ih =>
      unfold addSubportLoop
      have allocates : Leads (fun _ : Site => True) (request.getVlanId attempt trunkId)
          (fun _ _ => True) fun _ _ => True := by
        intro before _
        exact ⟨fun _ _ _ => trivial, fun _ _ _ => trivial⟩
      apply allocates.bind
      intro vlanId
      have refuses : Leads (fun _ : Site => True)
          (tryCatch
            (do
              addTrunkSubports request.endings attempt trunkId [⟨vlanId, none⟩]
              return true)
            fun ex => if ex = .neutronConflict ∧ left ≠ 0 then return false else throw ex)
          (fun added _ => added = false) fun _ _ => True := by
        apply Leads.tryCatch
        · apply (addTrunkSubports_none_leads attempt trunkId vlanId).bind
          intro _
          exact leads_pure fun _ impossible => impossible.elim
        · intro exception
          split
          · exact leads_pure fun _ _ => rfl
          · exact leads_throw fun _ _ => trivial
      apply refuses.bind
      rintro added middle rfl
      exact ih (attempt + 1) middle trivial

theorem addSubport_leads (trunkId : String) (subport : Nat) (site : Site) :
    Leads (fun before => before = site) (request.addSubport trunkId subport)
      (fun vlanId _ => request.VlanIdFound 1 trunkId site vlanId ∧
        request.endings (.addTrunkSubports 1) = .served)
      fun _ _ => ¬∃ vlanId, request.VlanIdFound 1 trunkId site vlanId ∧
        request.endings (.addTrunkSubports 1) = .served := by
  change Leads _ (request.addSubportLoop trunkId 3 1 (some subport)) _ _
  unfold addSubportLoop
  apply (getVlanId_leads 1 trunkId site).bind_of
  · rintro _ _ never ⟨vlanId, found, _⟩
    exact never vlanId found
  · intro vlanId
    apply Leads.of_fact
    intro found
    rcases found with ⟨served, subports, known, allocated⟩
    have found : request.VlanIdFound 1 trunkId site vlanId :=
      ⟨served, subports, known, allocated⟩
    have knownToo : (site.took vlanId).trunks.get? trunkId = some subports := known
    have unused := (request.segDriver.fresh _ _ _ allocated).1
    have adds : Leads (fun before => before = site.took vlanId)
        (tryCatch
          (do
            addTrunkSubports request.endings 1 trunkId [⟨vlanId, some subport⟩]
            return true)
          fun ex => if ex = .neutronConflict ∧ 2 ≠ 0 then return false else throw ex)
        (fun added _ => added = true ↔ request.endings (.addTrunkSubports 1) = .served)
        fun _ _ => request.endings (.addTrunkSubports 1) ≠ .served := by
      apply Leads.tryCatch
      · apply Leads.bind
        · apply addTrunkSubports_leads 1 trunkId knownToo
          · rintro info listed
            cases List.mem_singleton.mp listed
            rfl
          · rintro info listed
            cases List.mem_singleton.mp listed
            exact unused
        · intro _
          apply leads_pure
          exact fun _ served => ⟨fun _ => served, fun _ => rfl⟩
      · intro exception
        split
        · apply leads_pure
          intro _ unserved
          exact ⟨fun impossible => absurd impossible Bool.false_ne_true,
            fun served => absurd served unserved⟩
        · exact leads_throw fun _ unserved => unserved
    apply adds.bind_of
    · rintro _ _ unserved ⟨_, _, served⟩
      exact unserved served
    · intro added
      split
      · rename_i isAdded
        apply leads_pure
        exact fun _ same => ⟨found, same.mp isAdded⟩
      · rename_i notAdded
        intro middle same
        have never := addSubportLoop_none_leads request trunkId 2 2 middle trivial
        constructor
        · intro value after ran
          exact (never.1 value after ran).elim
        · rintro _ _ _ ⟨_, _, served⟩
          exact notAdded (same.mpr served)

/-! ## One port -/

/-- What a request finds out before it acquires anything: the trunk. -/
def prepared (request : VlanRequest) : Except PyException String := do
  let parentPort ← request.parentPort
  let trunkId ← getTrunkId parentPort
  request.portRequest
  return trunkId

/-- The part of `request_vif` that acquires the port and its segmentation id. -/
def acquire (request : VlanRequest) (trunkId : String) : NestedM Vif := do
  let port ← createPort request.endings
  tagNeutronResources request.endings request.resourceTags 0 [port]
  let vlanId ← request.addSubport trunkId port
  settle (request.toVif port vlanId)

theorem exec_requestVif (request : VlanRequest) (site : Site) :
    exec request.requestVif site =
      match request.prepared with
      | .ok trunkId => exec (request.acquire trunkId) site
      | .error exception => (.error exception, site) := by
  unfold requestVif prepared
  cases request.parentPort with
  | error exception => rfl
  | ok parentPort =>
      rcases parentPort with ⟨_ | trunkId⟩
      · rfl
      · cases request.portRequest with
        | error exception => rfl
        | ok value => rfl

/-- The request fails before it acquires anything. -/
def FailsEarly (request : VlanRequest) : Prop :=
  (∃ exception, request.prepared = .error exception) ∨
    ∃ exception, request.endings .createPort = .refused exception

/-- What a request needs from the port on: all calls are served, but for tags, and the allocator
has an id. -/
def VifServed (request : VlanRequest) (trunkId : String) (site : Site) : Prop :=
  request.endings .createPort = .served ∧
    TagsHarmless request.endings request.resourceTags 0 [site.nextPort] ∧
    ∃ vlanId, (request.VlanIdFound 1 trunkId site vlanId ∧
      request.endings (.addTrunkSubports 1) = .served) ∧
      ∃ vif, request.toVif site.nextPort vlanId = .ok vif

/-- From the new port on a request returns exactly where it is served. -/
theorem acquire_leads (request : VlanRequest) (trunkId : String) (site : Site)
    (created : request.endings .createPort = .served) :
    Leads (fun before => before = site) (request.acquire trunkId)
      (fun _ _ => request.VifServed trunkId site) fun _ _ => ¬request.VifServed trunkId site := by
  have creates : Leads (fun before => before = site) (createPort request.endings)
      (fun port after => port = site.nextPort ∧ after = site.grown 1)
      fun _ _ => ¬request.VifServed trunkId site := by
    rintro before rfl
    unfold createPort
    rw [exec_serve_of_served created]
    constructor
    · intro _ after ran
      cases ran
      exact ⟨rfl, rfl⟩
    · intro _ _ ran
      cases ran
  unfold acquire
  apply creates.bind
  intro port
  apply Leads.of_fact
  rintro rfl
  apply (tagNeutronResources_leads request.resourceTags 0 [site.nextPort] (site.grown 1)).bind_of
  · exact fun _ _ harmful served => harmful served.2.1
  · intro _
    rintro middle ⟨rfl, harmless⟩
    apply (addSubport_leads trunkId site.nextPort (site.grown 1)).bind_of _ _ _ rfl
    · rintro _ _ unserved ⟨_, _, vlanId, served, _⟩
      exact unserved ⟨vlanId, served⟩
    · intro vlanId
      cases converted : request.toVif site.nextPort vlanId with
      | ok vif =>
          apply leads_pure
          exact fun _ served => ⟨created, harmless, vlanId, served, vif, converted⟩
      | error exception =>
          apply leads_throw
          rintro _ served ⟨_, _, other, found, vif, convertedToo⟩
          rw [found.1.unique served.1, converted] at convertedToo
          cases convertedToo

theorem acquire_rest_keeps_ports (request : VlanRequest) (trunkId : String) (port : Nat) :
    portsStay.Keeps (do
      tagNeutronResources request.endings request.resourceTags 0 [port]
      let vlanId ← request.addSubport trunkId port
      settle (request.toVif port vlanId)) := by
  apply (tagNeutronResources_keeps request.resourceTags 0 [port]).bind
  intro _
  apply (addSubportLoop_keeps_ports trunkId _ 1 _).bind
  intro vlanId
  exact Frame.keeps_settle _

/-- A request for one port that raises leaves nothing behind exactly where it fails before it
creates the port or does not raise at all. -/
theorem requestVif_clean_iff (request : VlanRequest) (site : Site) :
    (∀ exception after, exec request.requestVif (begun site) = (.error exception, after) →
      after.Clean) ↔
    request.FailsEarly ∨ ∃ trunkId, request.prepared = .ok trunkId ∧
      request.VifServed trunkId (begun site) := by
  rw [exec_requestVif]
  cases found : request.prepared with
  | error exception =>
      constructor
      · intro _
        exact .inl (.inl ⟨exception, found⟩)
      · rintro _ _ after ⟨⟩
        exact clean_begun site
  | ok trunkId =>
      dsimp only
      cases created : request.endings .createPort with
      | refused exception =>
          constructor
          · intro _
            exact .inl (.inr ⟨exception, created⟩)
          · intro _ other after ran
            have refuses : exec (createPort request.endings) (begun site) =
                (.error exception, begun site) := Effect.exec_serve_of_refused created
            unfold acquire at ran
            rw [exec_bind_of_error refuses] at ran
            cases ran
            exact clean_begun site
      | cut exception =>
          have cut : ∃ raised, exec (createPort request.endings) (begun site) =
              (.error raised, (begun site).grown 1) := Effect.exec_serve_of_cut created
          rcases cut with ⟨raised, cuts⟩
          have ran : exec (request.acquire trunkId) (begun site) =
              (.error raised, (begun site).grown 1) := exec_bind_of_error cuts
          rw [ran]
          constructor
          · intro clean
            have there := mem_grown (begun site)
            exact absurd there.2 ((clean _ _ rfl).ports _ there.1)
          · rintro ((⟨_, early⟩ | ⟨_, refused⟩) | ⟨_, _, served, _⟩)
            · rw [found] at early
              cases early
            · rw [created] at refused
              cases refused
            · rw [created] at served
              cases served
      | served =>
          have leads := acquire_leads request trunkId (begun site) created _ rfl
          have creates : exec (createPort request.endings) (begun site) =
              (.ok (begun site).nextPort, (begun site).grown 1) := by
            unfold createPort
            rw [exec_serve_of_served created]
            rfl
          rcases ran : exec (request.acquire trunkId) (begun site) with ⟨outcome, after⟩
          have kept := acquire_rest_keeps_ports request trunkId
            (begun site).nextPort ((begun site).grown 1)
          have there : (begun site).nextPort ∈ after.created ∧
              (begun site).nextPort ∈ after.ports := by
            have moved := kept _ (mem_grown (begun site))
            unfold acquire at ran
            rw [exec_bind_of_ok creates] at ran
            rw [ran] at moved
            exact moved
          constructor
          · intro clean
            cases outcome with
            | ok vif => exact .inr ⟨trunkId, rfl, leads.1 vif after ran⟩
            | error exception =>
                exact absurd there.2 ((clean exception after rfl).ports _ there.1)
          · rintro ((⟨_, early⟩ | ⟨_, refused⟩) | ⟨_, same, served⟩)
            · rw [found] at early
              cases early
            · rw [created] at refused
              cases refused
            · rintro exception _ ⟨⟩
              cases same
              exact absurd served (leads.2 exception after ran)

/-! ## Ports in bulk -/

/-- The segmentation ids that a bulk request takes. -/
def idsAllocated (segDriver : SegmentationDriver) : Nat → (inUse taken : List Nat) → List Nat
  | 0, _, _ => []
  | count + 1, inUse, taken =>
      match segDriver.allocate inUse taken with
      | none => []
      | some id => id :: idsAllocated segDriver count (id :: inUse) (id :: taken)

theorem not_mem_of_idsAllocated {segDriver : SegmentationDriver} {count : Nat}
    {inUse taken : List Nat} {id : Nat} (listed : id ∈ idsAllocated segDriver count inUse taken) :
    id ∉ inUse := by
  induction count generalizing inUse taken with
  | zero => cases listed
  | succ count ih =>
      unfold idsAllocated at listed
      cases found : segDriver.allocate inUse taken with
      | none =>
          rw [found] at listed
          cases listed
      | some first =>
          rw [found] at listed
          rcases List.mem_cons.mp listed with rfl | later
          · exact (segDriver.fresh inUse taken _ found).1
          · exact fun there => ih later (List.mem_cons_of_mem first there)

/-- The loop takes its ids, and does not raise. -/
theorem allocateIds_leads (count : Nat) (inUse : List Nat) (site : Site) :
    Leads (fun before => before = site) (request.allocateIds count inUse)
      (fun ids after => ids = idsAllocated request.segDriver count inUse site.taken ∧
        ∃ later : List Nat, after =
          { site with
            taken := later ++ site.taken
            allocated := later ++ site.allocated } ∧ ∀ id, id ∈ later ↔ id ∈ ids)
      fun _ _ => False := by
  induction count generalizing inUse site with
  | zero =>
      apply leads_pure
      rintro _ rfl
      exact ⟨rfl, [], rfl, fun _ => Iff.rfl⟩
  | succ count ih =>
      unfold allocateIds idsAllocated
      have allocates : Leads (fun before => before = site)
          (tryCatch (some <$> allocateSegmentationId request.segDriver inUse) fun ex =>
            if ex = segmentationIdAllocationFailure then return none else throw ex)
          (fun found after => found = request.segDriver.allocate inUse site.taken ∧
            after = match found with
              | none => site
              | some id => site.took id)
          fun _ _ => False := by
        apply Leads.tryCatch
        · apply (allocateSegmentationId_leads request.segDriver inUse site).bind
          intro id
          apply leads_pure
          rintro _ ⟨found, same⟩
          exact ⟨found.symm, same⟩
        · intro exception
          split
          · apply leads_pure
            rintro _ ⟨_, exhausted, same⟩
            exact ⟨exhausted.symm, same⟩
          · rename_i other
            apply leads_throw
            exact fun _ ended => other ended.1
      apply allocates.bind
      intro found
      cases found with
      | none =>
          apply leads_pure
          rintro _ ⟨exhausted, rfl⟩
          rw [← exhausted]
          exact ⟨rfl, [], rfl, fun _ => Iff.rfl⟩
      | some id =>
          apply Leads.of_fact
          intro allocated
          rw [← allocated]
          apply (ih (id :: inUse) (site.took id)).bind
          intro rest
          apply leads_pure
          rintro _ ⟨rfl, later, rfl, all⟩
          refine ⟨rfl, later ++ [id], ?_, ?_⟩
          · unfold Site.took
            rw [List.append_assoc, List.append_assoc]
            rfl
          · intro other
            rw [List.mem_append, List.mem_singleton, all, List.mem_cons]
            exact or_comm

/-- The trunk of a bulk request. -/
def bulkTrunk (request : VlanRequest) : Except PyException String := do
  let parentPort ← request.parentPort
  getTrunkId parentPort

/-- The segmentation ids that a bulk request takes: none where it fails before. -/
def bulkIds (request : VlanRequest) (numPorts : Nat) (site : Site) : List Nat :=
  match request.bulkTrunk with
  | .error _ => []
  | .ok trunkId =>
      match request.endings (.getTrunk 0), site.trunks.get? trunkId, request.portRequest with
      | .served, some subports, .ok _ =>
          idsAllocated request.segDriver numPorts (subports.map (·.segmentationId)) site.taken
      | _, _, _ => []

theorem createSubportsInfo_leads (numPorts : Nat) {trunkId : String} (site : Site)
    (found : request.bulkTrunk = .ok trunkId) :
    Leads (fun before => before = site) (request.createSubportsInfo trunkId numPorts)
      (fun ids after => ids = request.bulkIds numPorts site ∧
        (∀ id ∈ ids, ∀ subports, site.trunks.get? trunkId = some subports →
          id ∉ subports.map (·.segmentationId)) ∧
        (∃ subports, site.trunks.get? trunkId = some subports) ∧
        ∃ later : List Nat, after =
          { site with
            taken := later ++ site.taken
            allocated := later ++ site.allocated } ∧ ∀ id, id ∈ later ↔ id ∈ ids)
      fun _ after => request.bulkIds numPorts site = [] ∧ after = site := by
  unfold createSubportsInfo getInUseVlanIdsSet bulkIds
  rw [found, bind_assoc]
  dsimp only
  apply (getTrunk_leads 0 trunkId site).bind_of
  · rintro _ after ⟨same, missing⟩
    refine ⟨?_, same⟩
    cases ending : request.endings (.getTrunk 0) with
    | served =>
        rw [missing ending]
    | refused exception => rfl
    | cut exception => rfl
  · intro subports
    rintro middle ⟨rfl, served, known⟩
    rw [exec_pure_bind, served, known]
    cases request.portRequest with
    | error exception =>
        rw [settle_error, exec_throw_bind]
        apply leads_throw _ middle rfl
        rintro _ rfl
        exact ⟨rfl, rfl⟩
    | ok value =>
        rw [settle_ok, exec_pure_bind]
        apply (allocateIds_leads numPorts _ middle).mono _ _ middle rfl
        · rintro ids after ⟨same, later, reached, all⟩
          refine ⟨same, ?_, ⟨subports, rfl⟩, later, reached, all⟩
          intro id listed others knownToo
          cases knownToo
          rw [same] at listed
          exact not_mem_of_idsAllocated listed
        · exact fun _ _ impossible => impossible.elim

/-- The part of `request_vifs` after the segmentation ids are taken. -/
def acquireAll (request : VlanRequest) (trunkId : String) (vlanIds : List Nat) :
    NestedM (List Vif) := do
  let ports ← createPorts request.endings vlanIds.length
  tagNeutronResources request.endings request.resourceTags 0 ports
  let infos := (ports.zip vlanIds).map fun pair => ⟨pair.2, some pair.1⟩
  let attached ← request.attachSubports trunkId infos ports
  if attached then
    settle (request.toVifs (ports.zip vlanIds))
  else
    return []

/-- What a bulk request needs from the ports on. -/
def VifsServed (request : VlanRequest) (vlanIds : List Nat) (site : Site) : Prop :=
  request.endings .createPorts = .served ∧
    TagsHarmless request.endings request.resourceTags 0
      (List.range' site.nextPort vlanIds.length) ∧
    request.endings (.addTrunkSubports 0) = .served ∧
    ∃ vifs, request.toVifs ((List.range' site.nextPort vlanIds.length).zip vlanIds) = .ok vifs

theorem attachSubports_leads (request : VlanRequest) (ports : List Nat) {trunkId : String}
    {infos subports : List SubportInfo} {site : Site}
    (known : site.trunks.get? trunkId = some subports)
    (ids : ∀ info ∈ infos, info.portId.isSome)
    (unused : ∀ info ∈ infos, info.segmentationId ∉ subports.map (·.segmentationId)) :
    Leads (fun before => before = site) (request.attachSubports trunkId infos ports)
      (fun attached _ => attached = true ↔ request.endings (.addTrunkSubports 0) = .served)
      fun _ _ => request.endings (.addTrunkSubports 0) ≠ .served := by
  have deletes (attempt : Nat) : Leads
      (fun _ : Site => request.endings (.addTrunkSubports 0) ≠ .served)
      (do
        ports.forM (deletePort request.endings attempt)
        return false)
      (fun attached _ => attached = true ↔ request.endings (.addTrunkSubports 0) = .served)
      fun _ _ => request.endings (.addTrunkSubports 0) ≠ .served := by
    have loop : Leads (fun _ : Site => request.endings (.addTrunkSubports 0) ≠ .served)
        (ports.forM (deletePort request.endings attempt))
        (fun _ _ => request.endings (.addTrunkSubports 0) ≠ .served)
        fun _ _ => request.endings (.addTrunkSubports 0) ≠ .served :=
      fun _ unserved => ⟨fun _ _ _ => unserved, fun _ _ _ => unserved⟩
    apply loop.bind
    intro _
    apply leads_pure
    intro _ unserved
    exact ⟨fun impossible => absurd impossible Bool.false_ne_true,
      fun served => absurd served unserved⟩
  apply Leads.tryCatch
  · apply Leads.tryCatch
    · apply (addTrunkSubports_leads 0 trunkId known ids unused).bind
      intro _
      apply leads_pure
      exact fun _ served => ⟨fun _ => served, fun _ => rfl⟩
    · intro exception
      split
      · exact deletes 0
      · exact leads_throw fun _ unserved => unserved
  · intro exception
    split
    · exact deletes 1
    · exact leads_throw fun _ unserved => unserved

theorem length_of_toVifs {pairs : List (Nat × Nat)} {vifs : List Vif}
    (converted : request.toVifs pairs = .ok vifs) : vifs.length = pairs.length := by
  induction pairs generalizing vifs with
  | nil =>
      cases converted
      rfl
  | cons pair rest ih =>
      unfold toVifs at converted
      cases first : request.toVif pair.1 pair.2 with
      | error exception =>
          rw [first] at converted
          cases converted
      | ok vif =>
          cases others : request.toVifs rest with
          | error exception =>
              rw [first, others] at converted
              cases converted
          | ok more =>
              rw [first, others] at converted
              cases converted
              rw [List.length_cons, List.length_cons, ih others]

theorem acquireAll_leads (request : VlanRequest) {trunkId : String} {vlanIds : List Nat}
    {subports : List SubportInfo} {site : Site} (some_ : vlanIds ≠ []) (known : site.trunks.get? trunkId = some subports)
    (unused : ∀ id ∈ vlanIds, id ∉ subports.map (·.segmentationId)) :
    Leads (fun before => before = site) (request.acquireAll trunkId vlanIds)
      (fun vifs _ => vifs ≠ [] ↔ request.VifsServed vlanIds site)
      fun _ _ => ¬request.VifsServed vlanIds site := by
  have creates : Leads (fun before => before = site)
      (createPorts request.endings vlanIds.length)
      (fun ports after => (ports = List.range' site.nextPort vlanIds.length ∧
        request.endings .createPorts = .served) ∧ after = site.grown vlanIds.length)
      fun _ _ => ¬request.VifsServed vlanIds site := by
    rintro before rfl
    unfold createPorts
    by_cases created : request.endings .createPorts = .served
    · rw [exec_serve_of_served created]
      constructor
      · intro _ after ran
        cases ran
        exact ⟨⟨rfl, created⟩, rfl⟩
      · intro _ _ ran
        cases ran
    · constructor
      · intro value after ran
        exact absurd (served_of_returns ran).1 created
      · exact fun _ _ _ served => created served.1
  unfold acquireAll
  apply creates.bind
  intro ports
  apply Leads.of_fact
  rintro ⟨rfl, created⟩
  apply (tagNeutronResources_leads request.resourceTags 0 _ (site.grown vlanIds.length)).bind_of
  · exact fun _ _ harmful served => harmful served.2.1
  · intro _
    rintro middle ⟨rfl, harmless⟩
    have knownToo : (site.grown vlanIds.length).trunks.get? trunkId = some subports := known
    have attaches : Leads (fun before => before = site.grown vlanIds.length)
        (request.attachSubports trunkId
          (((List.range' site.nextPort vlanIds.length).zip vlanIds).map
            fun pair => ⟨pair.2, some pair.1⟩) (List.range' site.nextPort vlanIds.length))
        (fun attached _ => attached = true ↔ request.endings (.addTrunkSubports 0) = .served)
        fun _ _ => request.endings (.addTrunkSubports 0) ≠ .served := by
      apply attachSubports_leads request _ knownToo
      · intro info listed
        rcases List.mem_map.mp listed with ⟨pair, _, rfl⟩
        rfl
      · intro info listed
        rcases List.mem_map.mp listed with ⟨pair, there, rfl⟩
        exact unused pair.2 (List.of_mem_zip there).2
    apply attaches.bind_of _ _ _ rfl
    · exact fun _ _ unserved served => unserved served.2.2.1
    · intro attached
      split
      · rename_i isAttached
        cases converted : request.toVifs
            ((List.range' site.nextPort vlanIds.length).zip vlanIds) with
        | error exception =>
            apply leads_throw
            rintro _ _ ⟨_, _, _, vifs, convertedToo⟩
            rw [converted] at convertedToo
            cases convertedToo
        | ok vifs =>
            apply leads_pure
            intro _ same
            constructor
            · exact fun _ => ⟨created, harmless, same.mp isAttached, vifs, converted⟩
            · rintro _ rfl
              have long := length_of_toVifs converted
              rw [List.length_zip, List.length_range', Nat.min_self] at long
              exact some_ (List.length_eq_zero_iff.mp long.symm)
      · rename_i notAttached
        apply leads_pure
        intro _ same
        constructor
        · exact fun impossible => absurd rfl impossible
        · exact fun served => absurd (same.mpr served.2.2.1) notAttached

theorem acquireAll_keeps_ids (request : VlanRequest) (trunkId : String) (vlanIds : List Nat) :
    idsStay.Keeps (request.acquireAll trunkId vlanIds) := by
  have creates : idsStay.Keeps (createPorts request.endings vlanIds.length) := by
    apply keeps_serve
    exact fun _ _ given => given
  apply creates.bind
  intro ports
  apply (tagNeutronResources_keeps request.resourceTags 0 ports).bind
  intro _
  apply (attachSubports_keeps_ids trunkId _ ports).bind
  intro attached
  split
  · exact Frame.keeps_settle _
  · exact Frame.keeps_pure _

/-- The bulk request raises or creates nothing. -/
def Failed (outcome : Except PyException (List Vif)) : Prop :=
  ∀ vifs, outcome = .ok vifs → vifs = []

/-- A request for ports in bulk that raises or returns none leaves nothing behind exactly where
it takes no segmentation id or returns all ports. -/
theorem requestVifs_clean_iff (request : VlanRequest) (numPorts : Nat) (site : Site) :
    (∀ outcome after, exec (request.requestVifs numPorts) (begun site) = (outcome, after) →
      Failed outcome → after.Clean) ↔
    request.bulkIds numPorts (begun site) = [] ∨
      request.VifsServed (request.bulkIds numPorts (begun site)) (begun site) := by
  -- a request that fails with nothing noted is clean
  have idle (outcome : Except PyException (List Vif))
      (ran : exec (request.requestVifs numPorts) (begun site) = (outcome, begun site))
      (none_ : request.bulkIds numPorts (begun site) = []) :
      (∀ outcome after, exec (request.requestVifs numPorts) (begun site) = (outcome, after) →
        Failed outcome → after.Clean) ↔
      request.bulkIds numPorts (begun site) = [] ∨
        request.VifsServed (request.bulkIds numPorts (begun site)) (begun site) := by
    constructor
    · exact fun _ => .inl none_
    · intro _ other after ranToo _
      rw [ran] at ranToo
      cases ranToo
      exact clean_begun site
  cases parent : request.parentPort with
  | error exception =>
      apply idle (.error exception)
      · unfold requestVifs
        rw [parent]
        rfl
      · unfold bulkIds bulkTrunk
        rw [parent]
        rfl
  | ok parentPort =>
      cases trunk : getTrunkId parentPort with
      | error exception =>
          apply idle (.error exception)
          · unfold requestVifs
            rw [parent, settle_ok, exec_pure_bind, trunk]
            rfl
          · have found : request.bulkTrunk = .error exception := by
              unfold bulkTrunk
              rw [parent]
              exact trunk
            unfold bulkIds
            rw [found]
      | ok trunkId =>
          have found : request.bulkTrunk = .ok trunkId := by
            unfold bulkTrunk
            rw [parent]
            exact trunk
          have begins : exec (request.requestVifs numPorts) (begun site) =
              exec (do
                let vlanIds ← request.createSubportsInfo trunkId numPorts
                if vlanIds = [] then
                  return []
                else
                  request.acquireAll trunkId vlanIds) (begun site) := by
            unfold requestVifs
            rw [parent, settle_ok, exec_pure_bind, trunk, settle_ok, exec_pure_bind]
            rfl
          have leads := createSubportsInfo_leads numPorts (begun site) found _ rfl
          rcases infos : exec (request.createSubportsInfo trunkId numPorts) (begun site) with
            ⟨outcome, middle⟩
          cases outcome with
          | error exception =>
              rcases leads.2 exception middle infos with ⟨none_, same⟩
              apply idle (.error exception)
              · rw [begins, exec_bind_of_error infos, same]
              · exact none_
          | ok vlanIds =>
              rcases leads.1 vlanIds middle infos with
                ⟨same, unused, ⟨subports, known⟩, later, reached, all⟩
              rw [exec_bind_of_ok infos] at begins
              by_cases none_ : vlanIds = []
              · have nothing : later = [] := by
                  apply List.eq_nil_iff_forall_not_mem.mpr
                  intro id listed
                  have there := (all id).mp listed
                  rw [none_] at there
                  cases there
                have idle_ : middle = begun site := by
                  rw [reached, nothing]
                  rfl
                apply idle (.ok [])
                · rw [begins, if_pos none_, idle_]
                  rfl
                · rw [← same, none_]
              · rw [if_neg none_] at begins
                have knownToo : middle.trunks.get? trunkId = some subports := by
                  rw [reached]
                  exact known
                have acquires := acquireAll_leads request none_ knownToo
                  fun id listed => unused id listed subports known
                have served_iff : request.VifsServed vlanIds middle ↔
                    request.VifsServed vlanIds (begun site) := by
                  rw [reached]
                  rfl
                have noted (id : Nat) (listed : id ∈ vlanIds) :
                    id ∈ middle.allocated ∧ id ∈ middle.taken := by
                  have taken := (all id).mpr listed
                  rw [reached]
                  exact ⟨List.mem_append_left _ taken, List.mem_append_left _ taken⟩
                have keeps := acquireAll_keeps_ids request trunkId vlanIds
                rw [← same]
                constructor
                · intro clean
                  right
                  by_contra unserved
                  rcases ended : exec (request.acquireAll trunkId vlanIds) middle with
                    ⟨outcome, final⟩
                  have failed : Failed outcome := by
                    rintro vifs rfl
                    by_contra returned
                    have servedThere := ((acquires middle rfl).1 vifs final ended).mp returned
                    exact unserved (served_iff.mp servedThere)
                  rcases List.exists_mem_of_ne_nil vlanIds none_ with ⟨id, listed⟩
                  have stays := keeps middle id (noted id listed)
                  rw [ended] at stays
                  rw [ended] at begins
                  exact (clean outcome final begins failed).ids id stays.1 stays.2
                · rintro (impossible | served) outcome final ran failed
                  · exact absurd impossible none_
                  · have servedThere := served_iff.mpr served
                    rw [begins] at ran
                    cases outcome with
                    | error exception =>
                        exact absurd servedThere ((acquires middle rfl).2 exception final ran)
                    | ok vifs =>
                        exact absurd (failed vifs rfl)
                          (((acquires middle rfl).1 vifs final ran).mpr servedThere)

end VlanRequest

end KuryrKubernetes.Nested

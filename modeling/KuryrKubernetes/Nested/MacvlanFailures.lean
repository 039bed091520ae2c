import KuryrKubernetes.Nested.Macvlan
import KuryrKubernetes.Nested.VlanFailures

/-!
# Failed requests for MACVLAN ports

The port of a pod is created once and kept through all attempts: whatever fails after it leaves
it behind.
-/

namespace KuryrKubernetes.Nested

open KuryrKubernetes.Data
open KuryrKubernetes.Effect

namespace MacvlanRequest

variable {request : MacvlanRequest}

/-! ## Attempts -/

/-- The pairs of an attempt are computed. -/
def Added (request : MacvlanRequest) (vmPort : VmPort) : Prop :=
  ∃ addressPairs,
    addToAllowedAddressPairs vmPort request.containerIps.dedup request.containerMac =
      .ok addressPairs

/-- What the attempts need after the parent port of the first one is read: an attempt is served
before one fails that is not made again. -/
def UpdatedFrom (request : MacvlanRequest) (port : Nat) : (left attempt : Nat) → VmPort → Prop
  | 0, _, _ => False
  | left + 1, attempt, vmPort =>
      TagsHarmless request.endings request.resourceTags attempt [port] ∧
        request.Added vmPort ∧
        (request.endings (.updatePort attempt) = .served ∨
          left ≠ 0 ∧
            (∀ exception, (request.endings (.updatePort attempt)).exception? = some exception →
              exception.isSdkException) ∧
            ∃ next, request.parentPort (attempt + 1) = .ok next ∧
              UpdatedFrom request port left (attempt + 1) next)

theorem updatePort_leads (endings : Call → Ending PyException) (attempt : Nat)
    (addressPairs : List AddressPair) :
    Leads (fun _ : Site => True) (updatePort endings attempt addressPairs)
      (fun _ _ => endings (.updatePort attempt) = .served)
      fun exception _ => (endings (.updatePort attempt)).exception? = some exception := by
  intro before _
  unfold updatePort serve Effect.serve
  rw [exec_get_bind]
  dsimp only
  cases ending : endings (.updatePort attempt) with
  | served =>
      constructor
      · intro _ _ _
        rfl
      · intro _ _ ran
        cases ran
  | refused exception =>
      constructor
      · intro _ _ ran
        cases ran
      · intro _ _ ran
        cases ran
        rfl
  | cut exception =>
      dsimp only
      rw [exec_modify_bind]
      constructor
      · intro _ _ ran
        cases ran
      · intro _ _ ran
        cases ran
        rfl

/-- An attempt fails, and another one is made. -/
def Retried (request : MacvlanRequest) (left attempt : Nat) (vmPort : VmPort) : Prop :=
  request.Added vmPort ∧ left ≠ 0 ∧ request.endings (.updatePort attempt) ≠ .served ∧
    ∀ exception, (request.endings (.updatePort attempt)).exception? = some exception →
      exception.isSdkException

/-- An attempt is the last one, and is served. -/
def UpdateServed (request : MacvlanRequest) (attempt : Nat) (vmPort : VmPort) : Prop :=
  request.Added vmPort ∧ request.endings (.updatePort attempt) = .served

theorem exception_of_not_served {endings : Call → Ending PyException} {call : Call}
    {exception : PyException} (ended : (endings call).exception? = some exception) :
    endings call ≠ .served := by
  intro served
  rw [served] at ended
  cases ended

/-- What an attempt returns tells how it went. -/
def attemptReturned (request : MacvlanRequest) (left attempt : Nat) (vmPort : VmPort)
    (updated : Bool) : Prop :=
  if updated then request.UpdateServed attempt vmPort else request.Retried left attempt vmPort

/-- The attempt is the last one and is not served. -/
def attemptRaised (request : MacvlanRequest) (left attempt : Nat) (vmPort : VmPort) : Prop :=
  ¬request.UpdateServed attempt vmPort ∧ ¬request.Retried left attempt vmPort

theorem tryUpdatePort_leads (request : MacvlanRequest) (left attempt : Nat) (vmPort : VmPort) :
    Leads (fun _ : Site => True) (request.tryUpdatePort left attempt vmPort)
      (fun updated _ => request.attemptReturned left attempt vmPort updated)
      fun _ _ => request.attemptRaised left attempt vmPort := by
  unfold tryUpdatePort
  cases added : addToAllowedAddressPairs vmPort request.containerIps.dedup
      request.containerMac with
  | error exception =>
      have never : ¬request.Added vmPort := by
        rintro ⟨addressPairs, addedToo⟩
        rw [added] at addedToo
        cases addedToo
      have own : ¬exception.isSdkException := by
        unfold addToAllowedAddressPairs at added
        dsimp only at added
        split at added
        · cases added
          exact Bool.false_ne_true
        · split at added
          · cases added
            exact Bool.false_ne_true
          · cases added
      rw [settle_error]
      have raises : Leads (fun _ : Site => True)
          (do
            let addressPairs ← (throw exception : NestedM (List AddressPair))
            updatePort request.endings attempt addressPairs
            return true)
          (fun _ _ => False) fun raised _ => raised = exception := by
        intro before _
        rw [exec_throw_bind]
        constructor
        · intro _ _ ran
          cases ran
        · intro _ _ ran
          cases ran
          rfl
      apply Leads.tryCatch
      · exact raises.mono (fun _ _ impossible => impossible.elim) fun _ _ same => same
      · intro raised
        split
        · rename_i retried
          intro before same
          cases same
          exact absurd retried.1 own
        · apply leads_throw
          intro _ _
          exact ⟨fun served => never served.1, fun retried => never retried.1⟩
  | ok addressPairs =>
      have added_ : request.Added vmPort := ⟨addressPairs, added⟩
      rw [settle_ok]
      apply Leads.tryCatch
      · intro before _
        rw [exec_pure_bind]
        apply ((updatePort_leads request.endings attempt addressPairs).bind _) before trivial
        intro _
        apply leads_pure
        intro _ served
        exact ⟨added_, served⟩
      · intro exception
        split
        · rename_i again
          apply leads_pure
          intro _ ended
          refine ⟨added_, again.2, exception_of_not_served ended, ?_⟩
          intro other endedToo
          rw [ended] at endedToo
          cases endedToo
          exact again.1
        · rename_i last
          apply leads_throw
          intro _ ended
          constructor
          · exact fun served => exception_of_not_served ended served.2
          · rintro ⟨_, left_, _, sdk⟩
            exact last ⟨sdk exception ended, left_⟩

/-- An attempt and those after it, from the answer about the parent port on. -/
def attemptFrom (request : MacvlanRequest) (left attempt port : Nat) (vmPort : VmPort) :
    NestedM (Option Nat) := do
  tagNeutronResources request.endings request.resourceTags attempt [port]
  let updated ← request.tryUpdatePort left attempt vmPort
  if updated then
    return some port
  else
    request.requestLoop left (attempt + 1) (some port)

/-- The attempts return the port exactly where one is served in time. -/
theorem attemptFrom_leads (request : MacvlanRequest) (left attempt port : Nat)
    (vmPort : VmPort) :
    Leads (fun _ : Site => True) (request.attemptFrom left attempt port vmPort)
      (fun containerPort _ => containerPort = some port ∧
        request.UpdatedFrom port (left + 1) attempt vmPort)
      fun _ _ => ¬request.UpdatedFrom port (left + 1) attempt vmPort := by
  induction left generalizing attempt vmPort with
  | zero =>
      intro site _
      unfold attemptFrom UpdatedFrom
      apply (tagNeutronResources_leads request.resourceTags attempt [port] site).bind_of _ _ _ rfl
      · exact fun _ _ harmful updated => harmful updated.1
      · intro _
        rintro middle ⟨rfl, harmless⟩
        apply (tryUpdatePort_leads request 0 attempt vmPort).bind_of _ _ middle trivial
        · rintro _ _ ⟨unserved, _⟩ ⟨_, added, served | ⟨impossible, _⟩⟩
          · exact unserved ⟨added, served⟩
          · exact impossible rfl
        · intro updated
          cases updated with
          | true =>
              apply leads_pure
              rintro _ ⟨added, served⟩
              exact ⟨rfl, harmless, added, .inl served⟩
          | false =>
              rintro _ ⟨_, impossible, _⟩
              exact absurd rfl impossible
  | succ left ih =>
      intro site _
      unfold attemptFrom UpdatedFrom
      apply (tagNeutronResources_leads request.resourceTags attempt [port] site).bind_of _ _ _ rfl
      · exact fun _ _ harmful updated => harmful updated.1
      · intro _
        rintro middle ⟨rfl, harmless⟩
        apply (tryUpdatePort_leads request (left + 1) attempt vmPort).bind_of _ _ middle trivial
        · rintro _ _ ⟨unserved, once⟩ ⟨_, added, served | ⟨left_, sdk, _⟩⟩
          · exact unserved ⟨added, served⟩
          · apply once
            refine ⟨added, left_, ?_, sdk⟩
            exact fun served => unserved ⟨added, served⟩
        · intro updated
          cases updated with
          | true =>
              apply leads_pure
              rintro _ ⟨added, served⟩
              exact ⟨rfl, harmless, added, .inl served⟩
          | false =>
              rintro before ⟨added, left_, unserved, sdk⟩
              rw [if_neg Bool.false_ne_true]
              unfold requestLoop
              cases answered : request.parentPort (attempt + 1) with
              | error exception =>
                  rw [settle_error, exec_throw_bind]
                  constructor
                  · intro _ _ ran
                    cases ran
                  · rintro _ _ _ ⟨_, _, served | ⟨_, _, next, answeredToo, _⟩⟩
                    · exact unserved served
                    · cases answeredToo
              | ok next =>
                  rw [settle_ok, exec_pure_bind]
                  apply (ih (attempt + 1) next).mono _ _ before trivial
                  · rintro _ _ ⟨same, updated⟩
                    exact ⟨same, harmless, added, .inr ⟨left_, sdk, next, rfl, updated⟩⟩
                  · rintro _ _ failed ⟨_, _, served | ⟨_, _, other, answeredToo, updated⟩⟩
                    · exact unserved served
                    · cases answeredToo
                      exact failed updated

/-! ## What stays -/

theorem tryUpdatePort_keeps_ports (left attempt : Nat) (vmPort : VmPort) :
    portsStay.Keeps (request.tryUpdatePort left attempt vmPort) := by
  apply Frame.Keeps.tryCatch
  · apply (Frame.keeps_settle _).bind
    intro addressPairs
    apply Frame.Keeps.bind
    · exact keeps_serve (Frame.keeps_modify fun _ _ given => given)
    · intro _
      exact Frame.keeps_pure _
  · intro exception
    split
    · exact Frame.keeps_pure _
    · exact Frame.keeps_throw _

theorem attemptFrom_keeps_ports (left attempt port : Nat) (vmPort : VmPort) :
    portsStay.Keeps (request.attemptFrom left attempt port vmPort) := by
  induction left generalizing attempt vmPort with
  | zero =>
      apply (tagNeutronResources_keeps request.resourceTags attempt [port]).bind
      intro _
      apply (tryUpdatePort_keeps_ports 0 attempt vmPort).bind
      intro updated
      split
      · exact Frame.keeps_pure _
      · exact Frame.keeps_pure _
  | succ left ih =>
      apply (tagNeutronResources_keeps request.resourceTags attempt [port]).bind
      intro _
      apply (tryUpdatePort_keeps_ports (left + 1) attempt vmPort).bind
      intro updated
      split
      · exact Frame.keeps_pure _
      · apply (Frame.keeps_settle _).bind
        intro next
        exact ih (attempt + 1) next

/-! ## One port -/

/-- The part of `request_vif` that acquires the port. -/
def acquire (request : MacvlanRequest) (left : Nat) (vmPort : VmPort) : NestedM Vif := do
  let port ← createPort request.endings
  let containerPort ← request.attemptFrom left 1 port vmPort
  match containerPort with
  | none => throw .attributeError
  | some port => settle (request.toVif port)

theorem attemptFrom_keeps_rest (request : MacvlanRequest) (left : Nat) (vmPort : VmPort)
    (port : Nat) :
    portsStay.Keeps (do
      let containerPort ← request.attemptFrom left 1 port vmPort
      match containerPort with
      | none => throw .attributeError
      | some port => settle (request.toVif port)) := by
  apply (attemptFrom_keeps_ports left 1 port vmPort).bind
  intro containerPort
  cases containerPort with
  | none => exact Frame.keeps_throw _
  | some port => exact Frame.keeps_settle _

/-- The request fails before it acquires anything. -/
def FailsEarly (request : MacvlanRequest) : Prop :=
  (∃ exception, request.portRequest = .error exception) ∨
    request.revUpdateAttempts ≤ 0 ∨
    (∃ exception, request.parentPort 1 = .error exception) ∨
    ∃ exception, request.endings .createPort = .refused exception

/-- What a request needs: the port is created, and an attempt is served in time. -/
def VifServed (request : MacvlanRequest) (site : Site) : Prop :=
  request.endings .createPort = .served ∧ ∃ vmPort,
    request.parentPort 1 = .ok vmPort ∧
      request.UpdatedFrom site.nextPort request.revUpdateAttempts.toNat 1 vmPort ∧
      ∃ vif, request.toVif site.nextPort = .ok vif

/-- A request finds out first whether it can be made. -/
theorem exec_requestVif_of_early {request : MacvlanRequest} (site : Site)
    (early : (∃ exception, request.portRequest = .error exception) ∨
      request.revUpdateAttempts ≤ 0 ∨ ∃ exception, request.parentPort 1 = .error exception) :
    ∃ exception, exec request.requestVif site = (.error exception, site) := by
  unfold requestVif
  cases asked : request.portRequest with
  | error exception => exact ⟨exception, rfl⟩
  | ok value =>
      rw [settle_ok, exec_pure_bind]
      rcases early with ⟨exception, failed⟩ | none_ | ⟨exception, failed⟩
      · rw [asked] at failed
        cases failed
      · rw [Int.toNat_of_nonpos none_]
        exact ⟨.attributeError, rfl⟩
      · cases request.revUpdateAttempts.toNat with
        | zero => exact ⟨.attributeError, rfl⟩
        | succ left =>
            unfold requestLoop
            rw [failed]
            exact ⟨exception, rfl⟩

theorem exec_requestVif_of_ready {request : MacvlanRequest} (site : Site) {left : Nat}
    {vmPort : VmPort} (asked : request.portRequest = .ok ())
    (attempts : request.revUpdateAttempts.toNat = left + 1)
    (answered : request.parentPort 1 = .ok vmPort) :
    exec request.requestVif site = exec (request.acquire left vmPort) site := by
  unfold requestVif
  rw [asked, settle_ok, exec_pure_bind, attempts]
  unfold requestLoop
  rw [answered, settle_ok, pure_bind, bind_assoc]
  rfl

/-- From the new port on a request returns exactly where it is served. -/
theorem acquire_leads {request : MacvlanRequest} {left : Nat} {vmPort : VmPort} (site : Site)
    (attempts : request.revUpdateAttempts.toNat = left + 1)
    (answered : request.parentPort 1 = .ok vmPort) :
    Leads (fun before => before = site) (request.acquire left vmPort)
      (fun _ _ => request.VifServed site) fun _ _ => ¬request.VifServed site := by
  unfold acquire VifServed
  have creates : Leads (fun before => before = site) (createPort request.endings)
      (fun port _ => port = site.nextPort ∧ request.endings .createPort = .served)
      fun _ _ => request.endings .createPort ≠ .served := by
    rintro before rfl
    constructor
    · intro port after ran
      rcases served_of_returns ran with ⟨served, operated⟩
      cases operated
      exact ⟨rfl, served⟩
    · intro exception after ran served
      unfold createPort at ran
      rw [exec_serve_of_served served] at ran
      cases ran
  apply creates.bind_of
  · exact fun _ _ unserved served => unserved served.1
  · intro port
    rintro middle ⟨rfl, created⟩
    apply (attemptFrom_leads request left 1 site.nextPort vmPort).bind_of _ _ middle trivial
    · rintro _ _ failed ⟨_, other, answeredToo, updated, _⟩
      rw [answered] at answeredToo
      cases answeredToo
      rw [attempts] at updated
      exact failed updated
    · rintro containerPort after ⟨rfl, updated⟩
      dsimp only
      cases converted : request.toVif site.nextPort with
      | ok vif =>
          constructor
          · intro _ _ _
            refine ⟨created, vmPort, answered, ?_, vif, rfl⟩
            rw [attempts]
            exact updated
          · intro _ _ ran
            cases ran
      | error exception =>
          constructor
          · intro _ _ ran
            cases ran
          · rintro _ _ _ ⟨_, _, _, _, vif, convertedToo⟩
            cases convertedToo

/-- A request for one port that raises leaves nothing behind exactly where it fails before it
creates the port or does not raise at all. -/
theorem requestVif_clean_iff (request : MacvlanRequest) (site : Site) :
    (∀ exception after, exec request.requestVif (begun site) = (.error exception, after) →
      after.Clean) ↔
    request.FailsEarly ∨ request.VifServed (begun site) := by
  by_cases early : (∃ exception, request.portRequest = .error exception) ∨
      request.revUpdateAttempts ≤ 0 ∨ ∃ exception, request.parentPort 1 = .error exception
  · rcases exec_requestVif_of_early (begun site) early with ⟨raised, ran⟩
    rw [ran]
    constructor
    · intro _
      left
      rcases early with failed | none_ | failed
      · exact .inl failed
      · exact .inr (.inl none_)
      · exact .inr (.inr (.inl failed))
    · rintro _ _ after ⟨⟩
      exact clean_begun site
  · have asked : request.portRequest = .ok () := by
      cases answer : request.portRequest with
      | ok value => rfl
      | error exception => exact absurd (.inl ⟨exception, answer⟩) early
    have some_ : 0 < request.revUpdateAttempts := by
      by_contra none_
      exact early (.inr (.inl (not_lt.mp none_)))
    rcases Nat.exists_eq_succ_of_ne_zero (by omega : request.revUpdateAttempts.toNat ≠ 0) with
      ⟨left, attempts⟩
    cases answered : request.parentPort 1 with
    | error exception => exact absurd (.inr (.inr ⟨exception, answered⟩)) early
    | ok vmPort =>
        rw [exec_requestVif_of_ready (begun site) asked attempts answered]
        have leads := acquire_leads (begun site) attempts answered _ rfl
        rcases ran : exec (request.acquire left vmPort) (begun site) with ⟨outcome, after⟩
        cases created : request.endings .createPort with
        | refused exception =>
            have refuses : exec (createPort request.endings) (begun site) =
                (.error exception, begun site) := Effect.exec_serve_of_refused created
            unfold acquire at ran
            rw [exec_bind_of_error refuses] at ran
            cases ran
            constructor
            · intro _
              exact .inl (.inr (.inr (.inr ⟨exception, created⟩)))
            · rintro _ _ _ ⟨⟩
              exact clean_begun site
        | cut exception =>
            have cut : ∃ raised, exec (createPort request.endings) (begun site) =
                (.error raised, (begun site).grown 1) := Effect.exec_serve_of_cut created
            rcases cut with ⟨raised, cuts⟩
            unfold acquire at ran
            rw [exec_bind_of_error cuts] at ran
            cases ran
            constructor
            · intro clean
              have there := mem_grown (begun site)
              exact absurd there.2 ((clean _ _ rfl).ports _ there.1)
            · rintro ((failed | none_ | failed | ⟨_, refused⟩) | ⟨served, _⟩)
              · exact absurd (.inl failed) early
              · exact absurd (.inr (.inl none_)) early
              · exact absurd (.inr (.inr failed)) early
              · rw [created] at refused
                cases refused
              · rw [created] at served
                cases served
        | served =>
            have creates : exec (createPort request.endings) (begun site) =
                (.ok (begun site).nextPort, (begun site).grown 1) := by
              unfold createPort
              rw [exec_serve_of_served created]
              rfl
            have kept := attemptFrom_keeps_rest request left vmPort
              (begun site).nextPort ((begun site).grown 1)
            have there : (begun site).nextPort ∈ after.created ∧
                (begun site).nextPort ∈ after.ports := by
              have moved := kept _ (mem_grown (begun site))
              unfold acquire at ran
              rw [exec_bind_of_ok creates] at ran
              rw [ran] at moved
              exact moved
            constructor
            · intro clean
              cases outcome with
              | ok vif => exact .inr (leads.1 vif after ran)
              | error exception =>
                  exact absurd there.2 ((clean exception after rfl).ports _ there.1)
            · rintro ((failed | none_ | failed | ⟨_, refused⟩) | served)
              · exact absurd (.inl failed) early
              · exact absurd (.inr (.inl none_)) early
              · exact absurd (.inr (.inr failed)) early
              · rw [created] at refused
                cases refused
              · rintro exception _ ⟨⟩
                exact absurd served (leads.2 exception after ran)

end MacvlanRequest

/-! ## All requests -/

/-- Failed requests leave nothing behind exactly where nothing was acquired before the failure,
or where nothing fails: no request deletes its ports or releases its ids on every way out. -/
theorem failed_requests_clean_iff (vlan : VlanRequest) (macvlan : MacvlanRequest)
    (numPorts : Nat) (site : Site) :
    ((∀ exception after, exec vlan.requestVif (begun site) = (.error exception, after) →
        after.Clean) ↔
      vlan.FailsEarly ∨ ∃ trunkId, vlan.prepared = .ok trunkId ∧
        vlan.VifServed trunkId (begun site)) ∧
    ((∀ outcome after, exec (vlan.requestVifs numPorts) (begun site) = (outcome, after) →
        VlanRequest.Failed outcome → after.Clean) ↔
      vlan.bulkIds numPorts (begun site) = [] ∨
        vlan.VifsServed (vlan.bulkIds numPorts (begun site)) (begun site)) ∧
    ((∀ exception after, exec macvlan.requestVif (begun site) = (.error exception, after) →
        after.Clean) ↔
      macvlan.FailsEarly ∨ macvlan.VifServed (begun site)) := by
  refine ⟨?_, ?_, ?_⟩
  · exact vlan.requestVif_clean_iff site
  · exact vlan.requestVifs_clean_iff numPorts site
  · exact macvlan.requestVif_clean_iff site

/-- The lowest id that is free. -/
def lowestFree : SegmentationDriver where
  allocate inUse taken := (List.range' 1 4094).find? fun id => id ∉ inUse ∧ id ∉ taken
  fresh := by
    intro inUse taken id found
    have holds := List.find?_some found
    exact of_decide_eq_true holds

/-- Neutron refuses to attach the subport of a pod: its port and its segmentation id stay. -/
theorem refused_subport_leaves_port_and_id :
    ∃ (request : VlanRequest) (site after : Site),
      exec request.requestVif (begun site) = (.error .sdkException, after) ∧
        (∃ port ∈ after.created, port ∈ after.ports) ∧
          ∃ id ∈ after.allocated, id ∈ after.taken := by
  let request : VlanRequest :=
    { segDriver := lowestFree
      endings := fun call => if call = .addTrunkSubports 1 then .refused .sdkException else .served
      parentPort := .ok ⟨some "trunk"⟩
      toVif := fun _ _ => .ok ⟨"0", ⟨"net"⟩, "", "", true, none⟩ }
  let site : Site := { trunks := (∅ : Dict String (List SubportInfo)).set "trunk" [] }
  refine ⟨request, site, (exec request.requestVif (begun site)).2, ?_, ⟨0, ?_, ?_⟩, ⟨1, ?_, ?_⟩⟩
  · have raised : (exec request.requestVif (begun site)).1 = .error .sdkException := by rfl
    exact Prod.ext raised rfl
  all_goals decide +kernel

end KuryrKubernetes.Nested

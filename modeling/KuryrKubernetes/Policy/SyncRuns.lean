import KuryrKubernetes.Policy.Agreement
import KuryrKubernetes.Transition.Run

/-!
# Resources and Neutron over runs of events

The driver handles one event after another.  Resources and Neutron stay in agreement as
long as every deletion is a clean one.
-/

namespace KuryrKubernetes.Policy

open KuryrKubernetes.Data
open KuryrKubernetes.Effect
open KuryrKubernetes.Transition

/-! ## Events -/

/-- The events that the driver handles, each with the answers to its calls. -/
inductive Event where
  | podCreated (snapshot : Snapshot) (pod : Pod)
  | podDeleted (snapshot : Snapshot) (pod : Pod)
  | podRelabelled (snapshot : Snapshot) (pod : Pod)
  | namespaceCreated (snapshot : Snapshot) (namespaceObj : Namespace)
  | namespaceDeleted (snapshot : Snapshot) (namespaceObj : Namespace)
  | namespaceRelabelled (snapshot : Snapshot) (namespaceObj : Namespace)

namespace Event

/-- The answers to the calls for an event. -/
def answers : Event → Snapshot
  | podCreated snapshot _ | podDeleted snapshot _ | podRelabelled snapshot _
  | namespaceCreated snapshot _ | namespaceDeleted snapshot _ | namespaceRelabelled snapshot _ =>
      snapshot

/-- The method that is called. -/
def handle : Event → DriverM (List LabelSelector)
  | podCreated snapshot pod =>
      NetworkPolicySecurityGroupsDriver.createSgRules snapshot pod
  | podDeleted snapshot pod => do
      let selectors ← NetworkPolicySecurityGroupsDriver.deleteSgRules snapshot pod
      return selectors.getD []
  | podRelabelled snapshot pod =>
      NetworkPolicySecurityGroupsDriver.updateSgRules snapshot pod
  | namespaceCreated snapshot namespaceObj =>
      NetworkPolicySecurityGroupsDriver.createNamespaceSgRules snapshot namespaceObj
  | namespaceDeleted snapshot namespaceObj =>
      NetworkPolicySecurityGroupsDriver.deleteNamespaceSgRules snapshot namespaceObj
  | namespaceRelabelled snapshot namespaceObj =>
      NetworkPolicySecurityGroupsDriver.updateNamespaceSgRules snapshot namespaceObj

/-- Handling an event; one that ends with an exception, after a call that failed, is no
step. -/
def step (world : World) (event : Event) : Option World :=
  match exec event.handle world with
  | (.ok _, after) => some after
  | (.error _, _) => none

/-- The pod of an event has an address, which is why the handlers pass it on. -/
def Addressed : Event → Prop
  | podCreated _ pod | podRelabelled _ pod => pod.podIp.isSome
  | _ => True

/-- No call for the event fails; a resource that is not found would go unnoticed. -/
def Succeeds (event : Event) : Prop :=
  ∀ crd, event.answers.refusesPatch crd = none

/-- What an event does with the entries of resources, if it deletes rules. -/
def fate : Event → Option Fate
  | podDeleted _ pod | podRelabelled _ pod => pod.podIp.map podFate
  | namespaceDeleted _ namespaceObj | namespaceRelabelled _ namespaceObj =>
      some (namespaceFate namespaceObj.name)
  | podCreated _ _ | namespaceCreated _ _ => none

/-- The event deletes rules cleanly, if at all. -/
def Clean (world : World) (event : Event) : Prop :=
  ∀ crd ∈ world.crds, ∀ fate ∈ event.fate, fate.Clean crd.entries

end Event

variable {snapshot : Snapshot}

theorem createSgRules_synced {pod : Pod} {before after : World} {selectors : List LabelSelector}
    (addressed : pod.podIp.isSome) (answers : ∀ crd, snapshot.refusesPatch crd = none)
    (distinct : before.Distinct) (synced : before.Synced)
    (ran : exec (NetworkPolicySecurityGroupsDriver.createSgRules snapshot pod) before =
      (.ok selectors, after)) : after.Distinct ∧ after.Synced := by
  apply overKnpCrds_synced distinct synced _ answers ran
  intro crd _ world agrees listed
  apply parses_creation _ (agrees crd listed)
  exact addressed

theorem createNamespaceSgRules_synced {namespaceObj : Namespace} {before after : World}
    {selectors : List LabelSelector} (answers : ∀ crd, snapshot.refusesPatch crd = none)
    (distinct : before.Distinct) (synced : before.Synced)
    (ran : exec (NetworkPolicySecurityGroupsDriver.createNamespaceSgRules snapshot namespaceObj) before =
      (.ok selectors, after)) : after.Distinct ∧ after.Synced := by
  apply overKnpCrds_synced distinct synced _ answers ran
  intro crd _ world agrees listed
  apply parses_creation _ (agrees crd listed)
  trivial

theorem deleteSgRules_synced {pod : Pod} {before after : World}
    {selectors : Option (List LabelSelector)}
    (answers : ∀ crd, snapshot.refusesPatch crd = none)
    (distinct : before.Distinct) (synced : before.Synced)
    (clean : ∀ crd ∈ before.crds, ∀ podIp ∈ pod.podIp, (podFate podIp).Clean crd.entries)
    (ran : exec (NetworkPolicySecurityGroupsDriver.deleteSgRules snapshot pod) before =
      (.ok selectors, after)) : after.Distinct ∧ after.Synced := by
  unfold NetworkPolicySecurityGroupsDriver.deleteSgRules at ran
  split at ran
  · cases ran
    exact ⟨distinct, synced⟩
  · rename_i podIp address
    obtain ⟨deleted, last, looped, ended⟩ := exec_bind_eq_ok ran
    cases ended
    apply overKnpCrds_synced distinct synced _ answers looped
    intro crd listed world agrees among
    exact parses_deletion (podFate_describes podIp) (podFate_sound podIp) (agrees crd among)
      (clean crd listed podIp address)

theorem deleteNamespaceSgRules_synced {namespaceObj : Namespace} {before after : World}
    {selectors : List LabelSelector} (answers : ∀ crd, snapshot.refusesPatch crd = none)
    (distinct : before.Distinct) (synced : before.Synced)
    (clean : ∀ crd ∈ before.crds, (namespaceFate namespaceObj.name).Clean crd.entries)
    (ran : exec (NetworkPolicySecurityGroupsDriver.deleteNamespaceSgRules snapshot namespaceObj) before =
      (.ok selectors, after)) : after.Distinct ∧ after.Synced := by
  apply overKnpCrds_synced distinct synced _ answers ran
  intro crd listed world agrees among
  exact parses_deletion (namespaceFate_describes namespaceObj.name)
    (namespaceFate_sound namespaceObj.name) (agrees crd among) (clean crd listed)

/-- What every event of a run meets. -/
def Event.Handled (world : World) (event : Event) : Prop :=
  event.Addressed ∧ event.Succeeds ∧ event.Clean world

/-- Handling an event keeps resources and Neutron in agreement. -/
theorem step_synced :
    PreservedBy Event.step Event.Handled fun world => world.Distinct ∧ world.Synced := by
  rintro before event after ⟨addressed, answers, clean⟩ ⟨distinct, synced⟩ taken
  unfold Event.step at taken
  split at taken
  · rename_i selectors world ran
    cases taken
    cases event with
    | podCreated snapshot pod => exact createSgRules_synced addressed answers distinct synced ran
    | podDeleted snapshot pod =>
        obtain ⟨deleted, last, looped, ended⟩ := exec_bind_eq_ok ran
        cases ended
        apply deleteSgRules_synced answers distinct synced _ looped
        intro crd listed podIp address
        apply clean crd listed
        exact Option.mem_map_of_mem podFate address
    | podRelabelled snapshot pod =>
        obtain ⟨deleted, middle, deletes, continued⟩ := exec_bind_eq_ok ran
        have cleanPod : ∀ crd ∈ before.crds, ∀ podIp ∈ pod.podIp,
            (podFate podIp).Clean crd.entries := by
          intro crd listed podIp address
          apply clean crd listed
          exact Option.mem_map_of_mem podFate address
        have between := deleteSgRules_synced answers distinct synced cleanPod deletes
        cases deleted with
        | none => cases continued
        | some deleted =>
            obtain ⟨created, last, creates, ended⟩ := exec_bind_eq_ok continued
            cases ended
            exact createSgRules_synced addressed answers between.1 between.2 creates
    | namespaceCreated snapshot namespaceObj =>
        exact createNamespaceSgRules_synced answers distinct synced ran
    | namespaceDeleted snapshot namespaceObj =>
        exact deleteNamespaceSgRules_synced answers distinct synced
          (fun crd listed => clean crd listed _ rfl) ran
    | namespaceRelabelled snapshot namespaceObj =>
        obtain ⟨deleted, middle, deletes, continued⟩ := exec_bind_eq_ok ran
        obtain ⟨created, last, creates, ended⟩ := exec_bind_eq_ok continued
        cases ended
        have between := deleteNamespaceSgRules_synced answers distinct synced
          (fun crd listed => clean crd listed _ rfl) deletes
        exact createNamespaceSgRules_synced answers between.1 between.2 creates
  · cases taken

/-- In every run of clean events the ids of each resource stay those of the rules of its
security group. -/
theorem crds_match_neutron {world after : World} {events : List Event}
    (distinct : world.Distinct) (synced : world.Synced)
    (handled : GuardedRun Event.step Event.Handled world events after) : after.Synced :=
  (handled.invariant step_synced ⟨distinct, synced⟩).2

/-! ## A named port that two pods have

The resource has one rule, open to everyone, because of both. -/

namespace Shared

def pod (name ip : String) : Pod :=
  { name, namespaceName := "shop", uid := name
    vifAnnotation := some { defaultVif := { id := name, network := ⟨"net"⟩, ipAddress := ip } } }

def prefixes : Dict String String :=
  ((∅ : Dict String String).set "10.0.0.1" "shop").set "10.0.0.2" "shop"

/-- The rule that is in the resource and at Neutron. -/
def rule : SgRule :=
  { securityGroupId := "group", direction := .ingress, protocol := .tcp
    portRangeMin := 8080, portRangeMax := 8080 }

/-- The cluster with the pods that the rule is there for. -/
def world (remoteIpPrefixes : Dict String String) : World :=
  { neutron := (∅ : Dict Nat SgRule).set 1 rule
    crds :=
      [{ namespaceName := "shop", name := "open", securityGroupId := "group"
         ingressSgRules := [{ rule, remoteIpPrefixes, id := 1 }] }] }

theorem distinct (remoteIpPrefixes : Dict String String) : (world remoteIpPrefixes).Distinct :=
  ⟨List.nodup_singleton _, List.nodup_singleton _⟩

theorem synced (remoteIpPrefixes : Dict String String) : (world remoteIpPrefixes).Synced := by
  intro crd listed id
  rw [List.mem_singleton.mp listed]
  have stored : (world remoteIpPrefixes).neutron = (∅ : Dict Nat SgRule).set 1 rule := rfl
  rw [InGroup, stored]
  simp only [Dict.get?_set, Crd.entries, entryIds, List.append_nil, List.map_cons, List.map_nil,
    List.mem_singleton]
  constructor
  · rintro rfl
    exact ⟨rule, rfl, rfl⟩
  · rintro ⟨other, found, _⟩
    split at found
    · assumption
    · cases found

end Shared

/-- One of the two pods is deleted. -/
theorem crds_match_neutron_after_one :
    (Shared.world (Shared.prefixes.erase "10.0.0.1")).Synced := by
  have handled : Event.Handled (Shared.world Shared.prefixes)
      (.podDeleted {} (Shared.pod "first" "10.0.0.1")) := by
    refine ⟨trivial, fun _ => rfl, ?_⟩
    intro crd listed fate own
    rw [List.mem_singleton.mp listed]
    cases own
    decide
  exact crds_match_neutron (Shared.distinct Shared.prefixes) (Shared.synced Shared.prefixes)
    (.cons handled (by decide) (.nil _))

/-- The deletion of the last pod loses the rule. -/
theorem crds_not_always_match_neutron :
    ¬∀ (world after : World) (event : Event), world.Distinct → world.Synced →
      event.Addressed → event.Succeeds → event.step world = some after → after.Synced := by
  intro keeps
  let last : Dict String String := (∅ : Dict String String).set "10.0.0.2" "shop"
  let after : World :=
    { neutron := (∅ : Dict Nat SgRule).set 1 Shared.rule
      crds := [{ namespaceName := "shop", name := "open", securityGroupId := "group" }] }
  have synced := keeps (Shared.world last) after (.podDeleted {} (Shared.pod "second" "10.0.0.2"))
    (Shared.distinct last) (Shared.synced last) trivial (fun _ => rfl) (by decide)
  have listed := (synced _ List.mem_cons_self 1).mpr ⟨Shared.rule, rfl, rfl⟩
  cases listed

end KuryrKubernetes.Policy

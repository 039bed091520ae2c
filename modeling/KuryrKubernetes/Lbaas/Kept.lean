import KuryrKubernetes.Lbaas.Ensured

/-!
# What the driver keeps

As long as nobody else deletes anything at Octavia and no load balancer goes to `ERROR`, the
driver keeps what is there when it ensures something, however that ends, and when it releases
something else.
-/

namespace KuryrKubernetes.Lbaas.Octavia

open KuryrKubernetes.Data
open KuryrKubernetes.Effect
open KuryrKubernetes.Transition

variable {Address : Type}

/-! ## Nobody else deletes -/

namespace Store

/-- No load balancer is in `ERROR`, and an id stands for one listener. -/
structure Sound (store : Store Address) : Prop where
  calm : ∀ lb ∈ store.balancers, lb.provisioningStatus ≠ .error
  listeners : ∀ listener ∈ store.listeners, ∀ other ∈ store.listeners,
    listener.id = other.id → listener = other
  issued : ∀ listener ∈ store.listeners, listener.id < store.issued

/-- The load balancers stay what they are; only their status may be another one. -/
def SameBalancers (before after : Store Address) : Prop :=
  ∀ lb ∈ before.balancers, ∃ other ∈ after.balancers, other.id = lb.id ∧ other.name = lb.name ∧
    other.projectId = lb.projectId ∧ other.vipAddress = lb.vipAddress ∧
    other.vipSubnetId = lb.vipSubnetId

/-- Nothing goes. -/
structure Within (before after : Store Address) : Prop where
  balancers : before.SameBalancers after
  listeners : before.listeners ⊆ after.listeners
  pools : before.pools ⊆ after.pools
  members : before.members ⊆ after.members

/-- Less is sound, however many ids were given out meanwhile. -/
theorem Sound.of_subset {before after : Store Address} (sound : before.Sound)
    (balancers : after.balancers ⊆ before.balancers)
    (listeners : after.listeners ⊆ before.listeners) (issued : before.issued ≤ after.issued) :
    after.Sound where
  calm lb listed := sound.calm lb (balancers listed)
  listeners listener listed other otherListed :=
    sound.listeners listener (listeners listed) other (listeners otherListed)
  issued listener listed := Nat.lt_of_lt_of_le (sound.issued listener (listeners listed)) issued

theorem Sound.addBalancer {store : Store Address} (sound : store.Sound) {lb : Balancer Address}
    (calm : lb.provisioningStatus ≠ .error) : (store.addBalancer lb).Sound where
  calm other listed := by
    rcases List.mem_append.mp listed with old | new
    · exact sound.calm other old
    · rw [List.mem_singleton.mp new]
      exact calm
  listeners := sound.listeners
  issued listener listed := Nat.lt_succ_of_lt (sound.issued listener listed)

/-- A listener with the id that is next. -/
theorem Sound.addListener {store : Store Address} (sound : store.Sound) {listener : Listener}
    (next : listener.id = store.issued) : (store.addListener listener).Sound where
  calm := sound.calm
  listeners first firstListed second secondListed same := by
    rcases List.mem_append.mp firstListed with old | new
    · rcases List.mem_append.mp secondListed with oldToo | newToo
      · exact sound.listeners first old second oldToo same
      · have bound := sound.issued first old
        rw [same, List.mem_singleton.mp newToo, next] at bound
        exact absurd bound (Nat.lt_irrefl _)
    · rcases List.mem_append.mp secondListed with oldToo | newToo
      · have bound := sound.issued second oldToo
        rw [← same, List.mem_singleton.mp new, next] at bound
        exact absurd bound (Nat.lt_irrefl _)
      · rw [List.mem_singleton.mp new, List.mem_singleton.mp newToo]
  issued other listed := by
    rcases List.mem_append.mp listed with old | new
    · exact Nat.lt_succ_of_lt (sound.issued other old)
    · rw [List.mem_singleton.mp new, next]
      exact Nat.lt_succ_self _

theorem SameBalancers.of_subset {before after : Store Address}
    (more : before.balancers ⊆ after.balancers) : before.SameBalancers after :=
  fun lb listed => ⟨lb, more listed, rfl, rfl, rfl, rfl, rfl⟩

theorem Within.refl (store : Store Address) : store.Within store :=
  ⟨.of_subset fun _ => id, fun _ => id, fun _ => id, fun _ => id⟩

end Store

/-- Others neither delete anything nor bring a load balancer to `ERROR`. -/
structure Environment.Gentle (environment : Environment Address) : Prop where
  within : ∀ number store, Store.Within store (environment.moves number store)
  sound : ∀ number (store : Store Address), store.Sound → (environment.moves number store).Sound

/-- What stays true while nothing goes. -/
structure Persistent (holds : Store Address → Prop) : Prop where
  sound : ∀ store, holds store → store.Sound
  grows : ∀ before after : Store Address, holds before → after.Sound → before.Within after →
    holds after

/-- The program keeps an assertion, however it ends. -/
def Keeps {α : Type} (holds : Store Address → Prop) (program : OctaviaM Address α) : Prop :=
  Leads holds program (fun _ => holds) fun _ => holds

namespace Keeps

variable {α β : Type} {holds : Store Address → Prop}

theorem of_pure (value : α) : Keeps holds (pure value) :=
  leads_pure fun _ given => given

theorem of_throw (ex : PyException) : Keeps holds (throw ex : OctaviaM Address α) :=
  leads_throw fun _ given => given

theorem of_settle (outcome : Except PyException α) : Keeps holds (settle outcome) := by
  cases outcome with
  | ok value => exact of_pure value
  | error ex => exact of_throw ex

theorem of_exec {program : OctaviaM Address α}
    (keeps : ∀ store, holds store → holds (exec program store).2) : Keeps holds program := by
  intro store given
  have kept := keeps store given
  constructor
  · intro value after ran
    rw [ran] at kept
    exact kept
  · intro ex after ran
    rw [ran] at kept
    exact kept

/-- A program that leaves Octavia alone. -/
theorem of_same {program : OctaviaM Address α} (same : ∀ store, (exec program store).2 = store) :
    Keeps holds program := by
  apply of_exec
  intro store given
  rwa [same]

theorem bind {program : OctaviaM Address α} {next : α → OctaviaM Address β}
    (head : Keeps holds program) (tail : ∀ value, Keeps holds (next value)) :
    Keeps holds (program >>= next) :=
  Leads.bind head tail

theorem tryCatch {program : OctaviaM Address α} {handler : PyException → OctaviaM Address α}
    (head : Keeps holds program) (tail : ∀ ex, Keeps holds (handler ex)) :
    Keeps holds (tryCatch program handler) :=
  Leads.tryCatch head tail

theorem and_returns {program : OctaviaM Address α} {post : α → Store Address → Prop}
    (keeps : Keeps holds program) (returns : Returns program post) :
    Leads holds program (fun value store => holds store ∧ post value store) fun _ => holds := by
  apply ((Leads.both keeps returns).weaken fun _ given => ⟨given, trivial⟩).mono
  · exact fun _ _ both => both
  · exact fun _ _ both => both.1

theorem get_bind {next : Store Address → OctaviaM Address α}
    (tail : ∀ store, Keeps holds (next store)) : Keeps holds (get >>= next) := by
  intro store given
  rw [exec_get_bind]
  exact tail store store given

end Keeps

section

variable {environment : Environment Address} (gentle : environment.Gentle)
  {neighbours : Neighbours Address} {holds : Store Address → Prop} (persistent : Persistent holds)
include gentle persistent

/-- A call of Octavia. -/
theorem call_leads {α : Type} {asks : Asks} {operation : OctaviaM Address α}
    {post : α → Store Address → Prop}
    (leads : Leads holds operation post fun _ => holds)
    (keeps : ∀ value store, post value store → holds store) :
    Leads holds (call environment asks operation) post fun _ => holds := by
  intro before given
  have moved : holds ((environment.moves before.calls before).called before.calls) := by
    apply persistent.grows _ _ given
    · exact (gentle.sound before.calls before (persistent.sound before given)).of_subset
        (fun _ => id) (fun _ => id) (Nat.le_refl _)
    · obtain ⟨balancers, listeners, pools, members⟩ := gentle.within before.calls before
      exact ⟨balancers, listeners, pools, members⟩
  rw [call, exec_get_bind, exec_set_bind]
  apply Effect.leads_serve leads _ _ _ moved
  · exact fun _ _ given => given
  · exact fun value _ store reached => keeps value store reached

theorem keeps_call {α : Type} {asks : Asks} {operation : OctaviaM Address α}
    (keeps : ∀ store, holds store → holds (exec operation store).2) :
    Keeps holds (call environment asks operation) := by
  apply call_leads gentle persistent (Keeps.of_exec keeps)
  exact fun _ _ given => given

/-- A call that creates something. -/
theorem keeps_create {α : Type} {asks : Asks} {operation : OctaviaM Address α}
    (more : ∀ store : Store Address, store.Sound →
      (exec operation store).2.Sound ∧ store.Within (exec operation store).2) :
    Keeps holds (call environment asks operation) := by
  apply keeps_call gentle persistent
  intro store given
  obtain ⟨sound, within⟩ := more store (persistent.sound store given)
  exact persistent.grows store _ given sound within

/-- A call that deletes something, if it is there. -/
theorem keeps_delete {listed : Store Address → Bool} {without : Store Address → Store Address}
    (keeps : ∀ store, holds store → holds (without store)) :
    Keeps holds (call environment .delete do
      let store : Store Address ← get
      if listed store then set (without store) else throw .neutronNotFound) := by
  apply keeps_call gentle persistent
  intro store given
  rw [exec_get_bind]
  split
  · exact keeps store given
  · exact given

/-- A call that changes nothing. -/
theorem keeps_ask {α : Type} {asks : Asks} {operation : OctaviaM Address α}
    (same : ∀ store, (exec operation store).2 = store) :
    Keeps holds (call environment asks operation) := by
  apply keeps_create gentle persistent
  intro store sound
  rw [same]
  exact ⟨sound, .refl store⟩

theorem keeps_getLoadBalancer (id : Nat) :
    Leads holds (Client.getLoadBalancer environment id)
      (fun status store => holds store ∧ status ≠ .error) fun _ => holds := by
  apply call_leads gentle persistent
  · intro before given
    rw [exec_get_bind]
    split
    · exact leads_throw (fun _ given => given) before given
    · rename_i lb found
      have calm := (persistent.sound before given).calm lb (List.mem_of_find?_eq_some found)
      exact leads_pure (fun _ given => ⟨given, calm⟩) before given
  · exact fun _ _ both => both.1

theorem keeps_awaitActive (loadbalancer : Loadbalancer Address) (turns : Nat) :
    Keeps holds (awaitActive environment neighbours loadbalancer turns) := by
  induction turns with
  | zero => exact Keeps.of_throw _
  | succ turns ih =>
      apply (keeps_getLoadBalancer gentle persistent loadbalancer.id).bind
      intro status
      cases status with
      | active => exact leads_pure fun _ both => both.1
      | error => exact fun _ both => absurd rfl both.2
      | other name => exact ih.weaken fun _ both => both.1

theorem keeps_waitForProvisioning (loadbalancer : Loadbalancer Address) :
    Keeps holds (waitForProvisioning environment neighbours loadbalancer) :=
  Keeps.get_bind fun _ => keeps_awaitActive gentle persistent loadbalancer _

end

theorem keeps_vipPortId {environment : Environment Address} {holds : Store Address → Prop} :
    Keeps holds (vipPortId environment) := by
  apply Keeps.get_bind
  intro store
  split
  · exact Keeps.of_pure _
  · exact Keeps.of_throw _
  · exact Keeps.of_throw _

theorem keeps_ensure {α : Type} {holds : Store Address → Prop}
    {create find : OctaviaM Address (Option α)} (creates : Keeps holds create)
    (finds : Keeps holds find) : Keeps holds (ensure create find) := by
  apply creates.tryCatch
  intro ex
  split
  · exact finds
  · exact Keeps.of_throw ex

section

variable {environment : Environment Address} (gentle : environment.Gentle)
  {neighbours : Neighbours Address} {holds : Store Address → Prop} (persistent : Persistent holds)
include gentle persistent

theorem keeps_tryProvisioned {α : Type} {create find : OctaviaM Address (Option α)}
    (creates : Keeps holds create) (finds : Keeps holds find)
    (loadbalancer : Loadbalancer Address) (turns : Nat) :
    Keeps holds (tryProvisioned environment neighbours loadbalancer create find turns) := by
  induction turns with
  | zero => exact Keeps.of_throw _
  | succ turns ih =>
      apply (keeps_waitForProvisioning gentle persistent loadbalancer).bind
      intro _
      apply Keeps.bind
      · apply (keeps_ensure creates finds).tryCatch
        intro ex
        split
        · exact Keeps.of_throw ex
        · split
          · exact Keeps.of_pure _
          · exact Keeps.of_throw ex
      · intro result
        cases result with
        | none => exact ih
        | some value => exact Keeps.of_pure value

theorem keeps_ensureProvisioned {α : Type} {create find : OctaviaM Address (Option α)}
    (creates : Keeps holds create) (finds : Keeps holds find)
    (loadbalancer : Loadbalancer Address) :
    Keeps holds (ensureProvisioned environment neighbours loadbalancer create find) :=
  Keeps.get_bind fun _ => keeps_tryProvisioned gentle persistent creates finds loadbalancer _

theorem keeps_ensureListener (sgModeCreate : Bool) (loadbalancer : Loadbalancer Address)
    (protocol : String) (port : Nat) :
    Keeps holds (ensureListener environment neighbours sgModeCreate loadbalancer protocol port) := by
  have creates (listener : Listener) : Keeps holds (createListener environment listener) := by
    apply Keeps.bind
    · apply keeps_create gentle persistent
      intro store sound
      exact ⟨sound.addListener rfl, .of_subset fun _ => id, List.subset_append_left _ _,
        fun _ => id, fun _ => id⟩
    · exact fun _ => Keeps.of_pure _
  have finds (listener : Listener) : Keeps holds (findListener environment listener) := by
    apply Keeps.bind
    · exact keeps_ask gentle persistent fun _ => rfl
    · exact fun _ => Keeps.of_pure _
  apply Keeps.bind
  · apply Keeps.tryCatch
    · apply (keeps_ensureProvisioned gentle persistent (creates _) (finds _) loadbalancer).bind
      exact fun _ => Keeps.of_pure _
    · intro ex
      split
      · exact Keeps.of_pure _
      · exact Keeps.of_throw ex
  · intro result
    cases result with
    | none => exact Keeps.of_pure _
    | some listener =>
        cases sgModeCreate with
        | false => exact Keeps.of_pure _
        | true => exact (Keeps.of_settle _).bind fun _ => Keeps.of_pure _

theorem keeps_ensurePool (loadbalancer : Loadbalancer Address) (listener : Listener) :
    Keeps holds (ensurePool environment neighbours loadbalancer listener) := by
  have creates (pool : Pool) : Keeps holds (createPool environment pool) := by
    apply Keeps.bind
    · apply keeps_create gentle persistent
      intro store sound
      exact ⟨sound.of_subset (fun _ => id) (fun _ => id) (Nat.le_succ _),
        .of_subset fun _ => id, fun _ => id, List.subset_append_left _ _, fun _ => id⟩
    · exact fun _ => Keeps.of_pure _
  have finds (pool : Pool) : Keeps holds (findPool environment pool) := by
    apply Keeps.bind
    · exact keeps_ask gentle persistent fun _ => rfl
    · exact fun _ => Keeps.of_pure _
  exact keeps_ensureProvisioned gentle persistent (creates _) (finds _) loadbalancer

theorem keeps_ensureMember [DecidableEq Address] (format : AddressFormat Address)
    (enforceSgRules : Bool) (loadbalancer : Loadbalancer Address) (request : MemberRequest) :
    Keeps holds
      (ensureMember environment neighbours format enforceSgRules loadbalancer request) := by
  have creates (member : Member Address) : Keeps holds (createMember environment member) := by
    apply Keeps.bind
    · apply keeps_create gentle persistent
      intro store sound
      exact ⟨sound.of_subset (fun _ => id) (fun _ => id) (Nat.le_succ _),
        .of_subset fun _ => id, fun _ => id, fun _ => id, List.subset_append_left _ _⟩
    · exact fun _ => Keeps.of_pure _
  have finds (member : Member Address) : Keeps holds (findMember environment member) := by
    apply Keeps.bind
    · exact keeps_ask gentle persistent fun _ => rfl
    · exact fun _ => Keeps.of_pure _
  apply (keeps_ensureProvisioned gentle persistent (creates _) (finds _) loadbalancer).bind
  intro member
  cases enforceSgRules with
  | false => exact Keeps.of_pure _
  | true =>
      cases request.listenerPort with
      | none => exact Keeps.of_pure _
      | some listenerPort => exact (Keeps.of_settle _).bind fun _ => Keeps.of_pure _

/-- The load balancers that are found are not in `ERROR`. -/
theorem keeps_loadBalancers [DecidableEq Address] (name : ServiceName) (projectId : String)
    (vipAddress : Address) (vipSubnetId : String) :
    Leads holds (Client.loadBalancers environment name projectId vipAddress vipSubnetId)
      (fun response store => holds store ∧ ∀ lb ∈ response, lb.provisioningStatus ≠ .error)
      fun _ => holds := by
  apply call_leads gentle persistent
  · intro before given
    rw [exec_get_bind]
    apply leads_pure (fun _ given => given) before
    exact ⟨given, fun lb found =>
      (persistent.sound before given).calm lb (List.mem_filter.mp found).1⟩
  · exact fun _ _ both => both.1

theorem keeps_ensureLoadbalancer [DecidableEq Address] (provider : Option String)
    (name : ServiceName) (spec : ServiceSpec Address) (ip : Address) :
    Keeps holds (ensureLoadbalancer environment neighbours provider name spec ip) := by
  have creates (request : Loadbalancer Address) :
      Keeps holds (createLoadbalancer environment provider request) := by
    apply Keeps.bind
    · apply keeps_create gentle persistent
      intro store sound
      constructor
      · exact sound.addBalancer (by simp)
      · exact ⟨.of_subset (List.subset_append_left _ _), fun _ => id, fun _ => id, fun _ => id⟩
    · intro response
      apply keeps_vipPortId.bind
      intro portId
      split
      · exact Keeps.of_pure _
      · exact Keeps.of_pure _
  have finds (request : Loadbalancer Address) :
      Keeps holds (findLoadbalancer environment neighbours request) := by
    apply (keeps_loadBalancers gentle persistent _ _ _ _).bind
    intro response before given
    cases response with
    | nil => exact Keeps.of_pure _ before given.1
    | cons osLb others =>
        have calm := given.2 osLb List.mem_cons_self
        apply keeps_vipPortId.bind _ before given.1
        intro portId
        simp only [if_neg calm]
        exact Keeps.of_pure _
  apply (keeps_ensure (creates _) (finds _)).bind
  intro response
  cases response with
  | none => exact Keeps.of_throw _
  | some loadbalancer => exact Keeps.of_pure _

/-- A release, where the deletion keeps the assertion. -/
theorem keeps_release {delete : OctaviaM Address PUnit} (deletes : Keeps holds delete)
    (loadbalancer : Option (Loadbalancer Address)) :
    Keeps holds (release environment neighbours loadbalancer delete) := by
  have waits : Keeps holds (awaitRelease environment neighbours loadbalancer) := by
    cases loadbalancer with
    | none => exact Keeps.of_throw _
    | some loadbalancer => exact keeps_waitForProvisioning gentle persistent loadbalancer
  have tries (turns : Nat) :
      Keeps holds (tryRelease environment neighbours loadbalancer delete turns) := by
    induction turns with
    | zero => exact Keeps.of_throw _
    | succ turns ih =>
        apply Keeps.bind
        · apply Keeps.tryCatch
          · apply Keeps.tryCatch
            · exact deletes.bind fun _ => Keeps.of_pure _
            · intro ex
              split
              · exact waits.bind fun _ => Keeps.of_pure _
              · exact Keeps.of_throw ex
          · intro ex
            split
            · exact Keeps.of_pure _
            · exact Keeps.of_throw ex
        · intro released
          cases released with
          | true => exact Keeps.of_pure _
          | false => exact ih
  exact Keeps.get_bind fun _ => tries _

end

end KuryrKubernetes.Lbaas.Octavia

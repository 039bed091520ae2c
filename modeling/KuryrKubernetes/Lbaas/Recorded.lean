import KuryrKubernetes.Lbaas.Kept
import KuryrKubernetes.Transition.Run

/-!
# What is recorded is there

A synchronization first releases what is not used any more, and what it then keeps of the
recorded state stays at Octavia while tries at an event are cut short.  The state that the last
try returns holds that and what the try itself was given, so that along all events the recorded
state is at Octavia: as long as nobody else deletes anything there and no load balancer goes to
`ERROR`.
-/

namespace KuryrKubernetes.Lbaas.Octavia

open KuryrKubernetes.Data
open KuryrKubernetes.Effect
open KuryrKubernetes.Transition

variable {Address : Type}

/-! ## Recorded states -/

/-- The load balancer, listeners, pools and members of the state are at Octavia. -/
structure Recorded (state : LbaasState Address) (store : Store Address) : Prop where
  loadbalancer : ∀ lb ∈ state.loadbalancer, BalancerThere lb store
  listeners : state.listeners ⊆ store.listeners
  pools : state.pools ⊆ store.pools
  members : state.members ⊆ store.members

/-- That, and Octavia is sound. -/
def Holds (state : LbaasState Address) (store : Store Address) : Prop :=
  store.Sound ∧ Recorded state store

/-- Where one state is at Octavia, the other is. -/
def Covers (state other : LbaasState Address) : Prop :=
  ∀ store, Recorded state store → Recorded other store

/-- A part of the state. -/
structure Part (part whole : LbaasState Address) : Prop where
  loadbalancer : ∀ lb ∈ part.loadbalancer, lb ∈ whole.loadbalancer
  listeners : part.listeners ⊆ whole.listeners
  pools : part.pools ⊆ whole.pools
  members : part.members ⊆ whole.members

theorem persistent_holds (state : LbaasState Address) : Persistent (Holds state) where
  sound _ holds := holds.1
  grows before after holds sound within := by
    refine ⟨sound, ?_, ?_, ?_, ?_⟩
    · intro lb listed
      obtain ⟨there, member, id, name, projectId, vipAddress, vipSubnetId⟩ :=
        holds.2.loadbalancer lb listed
      obtain ⟨other, found, same⟩ := within.balancers there member
      simp only [id, name, projectId, vipAddress, vipSubnetId] at same
      exact ⟨other, found, same⟩
    · exact List.Subset.trans holds.2.listeners within.listeners
    · exact List.Subset.trans holds.2.pools within.pools
    · exact List.Subset.trans holds.2.members within.members

theorem Covers.refl (state : LbaasState Address) : Covers state state :=
  fun _ => id

theorem Covers.trans {state other third : LbaasState Address} (first : Covers state other)
    (second : Covers other third) : Covers state third :=
  fun store recorded => second store (first store recorded)

theorem Part.covers {part whole : LbaasState Address} (below : Part part whole) :
    Covers whole part := by
  intro store recorded
  constructor
  · exact fun lb listed => recorded.loadbalancer lb (below.loadbalancer lb listed)
  · exact List.Subset.trans below.listeners recorded.listeners
  · exact List.Subset.trans below.pools recorded.pools
  · exact List.Subset.trans below.members recorded.members

theorem Part.refl (state : LbaasState Address) : Part state state :=
  ⟨fun _ => id, fun _ => id, fun _ => id, fun _ => id⟩

theorem Part.trans {part whole more : LbaasState Address} (first : Part part whole)
    (second : Part whole more) : Part part more where
  loadbalancer lb listed := second.loadbalancer lb (first.loadbalancer lb listed)
  listeners := List.Subset.trans first.listeners second.listeners
  pools := List.Subset.trans first.pools second.pools
  members := List.Subset.trans first.members second.members

/-! ## What is kept of a state -/

/-- The members that no target of the endpoints needs. -/
def unusedMembers (format : AddressFormat Address) (endpoints : Endpoints Address)
    (state : LbaasState Address) (spec : ServiceSpec Address) : List (Member Address) :=
  match endpoints.subsets.map (currentTargets (state.specPorts spec)) with
  | some (.ok targets) =>
      state.members.filter fun member => !targets.contains (member.target format)
  | _ => []

def withoutMembers (state : LbaasState Address) (removedIds : List Nat) : LbaasState Address :=
  { state with members := state.members.filter fun member => !removedIds.contains member.id }

def withoutPools (state : LbaasState Address) (removedIds : List Nat) : LbaasState Address :=
  { state with
    pools := state.pools.filter fun pool => !removedIds.contains pool.id
    members := state.members.filter fun member => !removedIds.contains member.poolId }

def withoutListeners (state : LbaasState Address) (removedIds : List Nat) :
    LbaasState Address :=
  { state with
    listeners := state.listeners.filter fun listener => !removedIds.contains listener.id }

/-- After `_remove_unused_members`, where there are pods. -/
def keptMembers (format : AddressFormat Address) (endpoints : Endpoints Address)
    (state : LbaasState Address) (spec : ServiceSpec Address) : LbaasState Address :=
  if endpoints.hasPods then
    withoutMembers state ((unusedMembers format endpoints state spec).map (·.id))
  else
    state

/-- After `_remove_unused_pools`. -/
def keptPools (state : LbaasState Address) (spec : ServiceSpec Address) : LbaasState Address :=
  withoutPools state
    ((state.pools.filter fun pool => !state.isPoolInSpec spec pool).map (·.id))

/-- After `_remove_unused_listeners`. -/
def keptListeners (state : LbaasState Address) : LbaasState Address :=
  withoutListeners state ((state.listeners.filter fun listener =>
    !(state.pools.map (·.listenerId)).contains listener.id).map (·.id))

/-- Nothing of a load balancer with another address. -/
def keptLoadbalancer [DecidableEq Address] (state : LbaasState Address)
    (spec : ServiceSpec Address) : LbaasState Address :=
  match state.loadbalancer with
  | none => state
  | some lb =>
      if some lb.ip = spec.ip then state
      else { state with loadbalancer := none, pools := [], listeners := [], members := [] }

/-- What a synchronization does not release. -/
def kept [DecidableEq Address] (format : AddressFormat Address) (endpoints : Endpoints Address)
    (state : LbaasState Address) (spec : ServiceSpec Address) : LbaasState Address :=
  keptLoadbalancer (keptListeners (keptPools (keptMembers format endpoints state spec) spec)) spec

theorem part_withoutMembers (state : LbaasState Address) (removedIds : List Nat) :
    Part (withoutMembers state removedIds) state :=
  ⟨fun _ => id, fun _ => id, fun _ => id, List.filter_subset_self _⟩

theorem part_withoutPools (state : LbaasState Address) (removedIds : List Nat) :
    Part (withoutPools state removedIds) state :=
  ⟨fun _ => id, fun _ => id, List.filter_subset_self _, List.filter_subset_self _⟩

theorem part_withoutListeners (state : LbaasState Address) (removedIds : List Nat) :
    Part (withoutListeners state removedIds) state :=
  ⟨fun _ => id, List.filter_subset_self _, fun _ => id, fun _ => id⟩

theorem part_keptMembers (format : AddressFormat Address) (endpoints : Endpoints Address)
    (state : LbaasState Address) (spec : ServiceSpec Address) :
    Part (keptMembers format endpoints state spec) state := by
  rw [keptMembers]
  split
  · exact part_withoutMembers state _
  · exact .refl state

theorem part_keptLoadbalancer [DecidableEq Address] (state : LbaasState Address)
    (spec : ServiceSpec Address) : Part (keptLoadbalancer state spec) state := by
  rw [keptLoadbalancer]
  split
  · exact .refl state
  · split
    · exact .refl state
    · exact ⟨by simp, List.nil_subset _, List.nil_subset _, List.nil_subset _⟩

section

variable [DecidableEq Address] (format : AddressFormat Address) (endpoints : Endpoints Address)
  (state : LbaasState Address) (spec : ServiceSpec Address)

theorem part_kept_listeners :
    Part (kept format endpoints state spec)
      (keptListeners (keptPools (keptMembers format endpoints state spec) spec)) :=
  part_keptLoadbalancer _ spec

theorem part_kept_pools :
    Part (kept format endpoints state spec)
      (keptPools (keptMembers format endpoints state spec) spec) :=
  (part_kept_listeners format endpoints state spec).trans (part_withoutListeners _ _)

theorem part_kept_members :
    Part (kept format endpoints state spec) (keptMembers format endpoints state spec) :=
  (part_kept_pools format endpoints state spec).trans (part_withoutPools _ _)

theorem part_kept : Part (kept format endpoints state spec) state :=
  (part_kept_members format endpoints state spec).trans (part_keptMembers format endpoints state spec)

end

/-! ## Releases -/

section

variable {environment : Environment Address} (gentle : environment.Gentle)
  {neighbours : Neighbours Address} {state part : LbaasState Address}
include gentle

theorem keeps_deleteMember {member : Member Address} {removedIds : List Nat}
    (below : Part part (withoutMembers state removedIds)) (removed : member.id ∈ removedIds) :
    Keeps (Holds part) (Client.deleteMember environment member.id member.poolId) := by
  apply keeps_delete gentle (persistent_holds part)
  rintro store ⟨sound, recorded⟩
  refine ⟨sound.of_subset (List.Subset.refl _) (List.Subset.refl _) (Nat.le_refl _),
    recorded.loadbalancer, recorded.listeners, recorded.pools, ?_⟩
  intro other listed
  have stays := (List.mem_filter.mp (below.members listed)).2
  have differs : other.id ≠ member.id := by
    intro same
    simp [same, removed] at stays
  simp [Store.withoutMember, recorded.members listed, differs]

theorem keeps_deletePool {id : Nat} {removedIds : List Nat}
    (below : Part part (withoutPools state removedIds)) (removed : id ∈ removedIds) :
    Keeps (Holds part) (Client.deletePool environment id) := by
  apply keeps_delete gentle (persistent_holds part)
  rintro store ⟨sound, recorded⟩
  refine ⟨sound.of_subset (List.Subset.refl _) (List.Subset.refl _) (Nat.le_refl _),
    recorded.loadbalancer, recorded.listeners, ?_, ?_⟩
  · intro pool listed
    have stays := (List.mem_filter.mp (below.pools listed)).2
    have differs : pool.id ≠ id := by
      intro same
      simp [same, removed] at stays
    simp [Store.withoutPool, recorded.pools listed, differs]
  · intro member listed
    have stays := (List.mem_filter.mp (below.members listed)).2
    have differs : member.poolId ≠ id := by
      intro same
      simp [same, removed] at stays
    simp [Store.withoutPool, recorded.members listed, differs]

theorem keeps_deleteListener {id : Nat} {removedIds : List Nat}
    (below : Part part (withoutListeners state removedIds)) (removed : id ∈ removedIds) :
    Keeps (Holds part) (Client.deleteListener environment id) := by
  apply keeps_delete gentle (persistent_holds part)
  rintro store ⟨sound, recorded⟩
  refine ⟨sound.of_subset (List.Subset.refl _) (List.filter_subset_self _) (Nat.le_refl _),
    recorded.loadbalancer, ?_, recorded.pools, recorded.members⟩
  intro listener listed
  have stays := (List.mem_filter.mp (below.listeners listed)).2
  have differs : listener.id ≠ id := by
    intro same
    simp [same, removed] at stays
  simp [Store.withoutListener, recorded.listeners listed, differs]

theorem keeps_awaitGone {holds : Store Address → Prop} (persistent : Persistent holds)
    (loadbalancer : Loadbalancer Address) (turns : Nat) :
    Keeps holds (waitForDeletion.awaitGone environment loadbalancer turns) := by
  induction turns with
  | zero => exact Keeps.of_pure _
  | succ turns ih =>
      apply Keeps.bind
      · apply Keeps.tryCatch
        · apply Keeps.bind
          · exact (keeps_getLoadBalancer gentle persistent _).mono (fun _ _ both => both.1)
              fun _ _ given => given
          · exact fun _ => Keeps.of_pure _
        · intro ex
          split
          · exact Keeps.of_pure _
          · exact Keeps.of_throw ex
      · intro gone
        cases gone with
        | true => exact Keeps.of_pure _
        | false => exact ih

/-- Where nothing is kept of the load balancer. -/
theorem keeps_releaseLoadbalancer (nothing : part.loadbalancer = none)
    (empty : part.listeners = [] ∧ part.pools = [] ∧ part.members = [])
    (loadbalancer : Loadbalancer Address) :
    Keeps (Holds part) (releaseLoadbalancer environment neighbours loadbalancer) := by
  have deletes : Keeps (Holds part) (Client.deleteLoadBalancer environment loadbalancer.id) := by
    apply keeps_delete gentle (persistent_holds part)
    rintro store ⟨sound, _⟩
    refine ⟨?_, ?_, ?_, ?_, ?_⟩
    · exact sound.of_subset (List.filter_subset_self _) (List.filter_subset_self _) (Nat.le_refl _)
    · simp [nothing]
    · simp [empty]
    · simp [empty]
    · simp [empty]
  apply (keeps_release gentle (persistent_holds part) deletes _).bind
  intro _
  apply (Keeps.of_settle _).bind
  intro listenersSg
  cases listenersSg with
  | none => exact Keeps.of_pure _
  | some sgId =>
      apply Keeps.bind
      · exact Keeps.get_bind fun _ => keeps_awaitGone gentle (persistent_holds part) _ _
      · intro _
        apply (Keeps.of_settle _).tryCatch
        intro ex
        split
        · exact Keeps.of_pure _
        · exact Keeps.of_throw ex

end

/-! ## The first half of a synchronization -/

/-- The driver of public addresses works at Neutron. -/
def Elsewhere (driver : PubIpDriver Address (Store Address)) : Prop :=
  ∀ info store, (exec (driver.disassociatePubIp info) store).2 = store ∧
    (exec (driver.releasePubIp info) store).2 = store

section

variable [DecidableEq Address] {environment : Environment Address}
  (gentle : environment.Gentle) {neighbours : Neighbours Address} {conf : Conf}
  {format : AddressFormat Address} {handler : LoadBalancerHandler Address (Store Address)}
  (drives : handler.drvLbaas = lbaasv2Driver environment neighbours format conf)
  {endpoints : Endpoints Address} {state part : LbaasState Address} {spec : ServiceSpec Address}
include gentle drives

theorem removeUnusedMembers_leads (formats : handler.format = format) (pods : endpoints.hasPods)
    (below : Part part (keptMembers format endpoints state spec)) :
    Leads (Holds part) (handler.removeUnusedMembers endpoints state spec)
      (fun removed store =>
        removed.1 = keptMembers format endpoints state spec ∧ Holds part store)
      fun _ => Holds part := by
  rw [keptMembers, if_pos pods] at below ⊢
  rw [LoadBalancerHandler.removeUnusedMembers]
  cases present : endpoints.subsets with
  | none => exact leads_throw fun _ given => given
  | some subsets =>
      apply Leads.settle_bind
      · exact fun _ _ _ given => given
      · intro targets current
        have unused : unusedMembers format endpoints state spec =
            state.members.filter fun member => !targets.contains (member.target format) := by
          simp [unusedMembers, present, current]
        rw [unused] at below ⊢
        rw [formats, drives]
        apply Leads.bind
        · apply Leads.forM
          intro member listed
          apply keeps_release gentle (persistent_holds part)
          exact keeps_deleteMember gentle below (List.mem_map_of_mem listed)
        · intro _
          exact leads_pure fun _ given => ⟨rfl, given⟩

theorem removeUnusedPools_leads (below : Part part (keptPools state spec)) :
    Leads (Holds part) (handler.removeUnusedPools state spec)
      (fun removed store => removed.1 = keptPools state spec ∧ Holds part store)
      fun _ => Holds part := by
  rw [LoadBalancerHandler.removeUnusedPools, drives]
  apply Leads.bind
  · apply Leads.forM
    intro pool listed
    apply keeps_release gentle (persistent_holds part)
    exact keeps_deletePool gentle below (List.mem_map_of_mem listed)
  · intro _
    exact leads_pure fun _ given => ⟨rfl, given⟩

theorem removeUnusedListeners_leads (below : Part part (keptListeners state)) :
    Leads (Holds part) (handler.removeUnusedListeners state)
      (fun removed store => removed.1 = keptListeners state ∧ Holds part store)
      fun _ => Holds part := by
  rw [LoadBalancerHandler.removeUnusedListeners, drives]
  apply Leads.bind
  · apply Leads.forM
    intro listener listed
    apply Leads.bind
    · apply keeps_release gentle (persistent_holds part)
      exact keeps_deleteListener gentle below (List.mem_map_of_mem listed)
    · exact fun _ => Keeps.of_settle _
  · intro _
    exact leads_pure fun _ given => ⟨rfl, given⟩

theorem releaseReplaced_leads (elsewhere : Elsewhere handler.drvServicePubIp) :
    Leads (Holds (keptLoadbalancer state spec)) (handler.releaseReplaced state spec)
      (fun released store =>
        released.1 = keptLoadbalancer state spec ∧ Holds (keptLoadbalancer state spec) store)
      fun _ => Holds (keptLoadbalancer state spec) := by
  rw [LoadBalancerHandler.releaseReplaced]
  cases present : state.loadbalancer with
  | none =>
      have whole : keptLoadbalancer state spec = state := by simp [keptLoadbalancer, present]
      rw [whole]
      exact leads_pure fun _ given => ⟨rfl, given⟩
  | some lb =>
      by_cases same : some lb.ip = spec.ip
      · have whole : keptLoadbalancer state spec = state := by
          simp [keptLoadbalancer, present, same]
        rw [whole]
        simp only [if_pos same]
        exact leads_pure fun _ given => ⟨rfl, given⟩
      · have nothing : keptLoadbalancer state spec =
            { state with loadbalancer := none, pools := [], listeners := [], members := [] } := by
          simp [keptLoadbalancer, present, same]
        rw [nothing, drives]
        simp only [if_neg same]
        apply Leads.bind
        · rw [LoadBalancerHandler.disassociate]
          split
          · exact Keeps.of_same fun store => (elsewhere _ store).1
          · exact Keeps.of_pure _
        · intro _
          apply Leads.bind
          · exact keeps_releaseLoadbalancer gentle rfl ⟨rfl, rfl, rfl⟩ lb
          · intro _
            exact leads_pure fun _ given => ⟨rfl, given⟩

end

/-! ## The second half -/

/-- The result holds all that the state does, and all of it is at Octavia. -/
def Grown (state result : LbaasState Address) (store : Store Address) : Prop :=
  Covers result state ∧ Holds result store

/-- The program starts from more than the state. -/
theorem leads_grown {α : Type} {result : α → LbaasState Address} {state more : LbaasState Address}
    {holds : Store Address → Prop} {program : OctaviaM Address α} (covers : Covers more state)
    (leads : Leads (Holds more) program (fun value => Grown more (result value))
      fun _ => Holds more)
    (implies : ∀ store, holds store → Holds more store) :
    Leads holds program (fun value => Grown state (result value)) fun _ => Holds state := by
  apply (leads.weaken implies).mono
  · exact fun _ _ grown => ⟨grown.1.trans covers, grown.2⟩
  · exact fun _ store given => ⟨given.1, covers store given.2⟩

/-- What follows goes on from a result. -/
theorem leads_grown_bind {α β : Type} {first : OctaviaM Address α} {next : α → OctaviaM Address β}
    {result : α → LbaasState Address} {last : β → LbaasState Address} {state : LbaasState Address}
    {holds : Store Address → Prop}
    (head : Leads holds first (fun value => Grown state (result value)) fun _ => Holds state)
    (tail : ∀ value, Leads (Holds (result value)) (next value)
      (fun ended => Grown (result value) (last ended)) fun _ => Holds (result value)) :
    Leads holds (first >>= next) (fun ended => Grown state (last ended)) fun _ => Holds state := by
  apply Leads.bind head
  intro value
  apply Leads.of_fact
  intro covers
  exact leads_grown covers (tail value) fun _ => id

theorem leads_ungrown {α : Type} {state : LbaasState Address} (value : α) :
    Leads (Holds state) (pure (state, value) : OctaviaM Address (LbaasState Address × α))
      (fun result => Grown state result.1) fun _ => Holds state :=
  leads_pure fun _ given => ⟨.refl state, given⟩

theorem covers_addListener (state : LbaasState Address) (listener : Listener) :
    Covers { state with listeners := state.listeners ++ [listener] } state :=
  Part.covers ⟨fun _ => id, List.subset_append_left _ _, fun _ => id, fun _ => id⟩

theorem covers_addPool (state : LbaasState Address) (pool : Pool) :
    Covers { state with pools := state.pools ++ [pool] } state :=
  Part.covers ⟨fun _ => id, fun _ => id, List.subset_append_left _ _, fun _ => id⟩

theorem covers_addMember (state : LbaasState Address) (member : Member Address) :
    Covers { state with members := state.members ++ [member] } state :=
  Part.covers ⟨fun _ => id, fun _ => id, fun _ => id, List.subset_append_left _ _⟩

theorem holds_addListener {state : LbaasState Address} {store : Store Address}
    (holds : Holds state store) {listener : Listener} (there : listener ∈ store.listeners) :
    Holds { state with listeners := state.listeners ++ [listener] } store :=
  ⟨holds.1, holds.2.loadbalancer,
    List.append_subset.mpr ⟨holds.2.listeners, by simpa using there⟩,
    holds.2.pools, holds.2.members⟩

theorem holds_addPool {state : LbaasState Address} {store : Store Address}
    (holds : Holds state store) {pool : Pool} (there : pool ∈ store.pools) :
    Holds { state with pools := state.pools ++ [pool] } store :=
  ⟨holds.1, holds.2.loadbalancer, holds.2.listeners,
    List.append_subset.mpr ⟨holds.2.pools, by simpa using there⟩, holds.2.members⟩

theorem holds_addMember {state : LbaasState Address} {store : Store Address}
    (holds : Holds state store) {member : Member Address} (there : member ∈ store.members) :
    Holds { state with members := state.members ++ [member] } store :=
  ⟨holds.1, holds.2.loadbalancer, holds.2.listeners, holds.2.pools,
    List.append_subset.mpr ⟨holds.2.members, by simpa using there⟩⟩

section

variable [DecidableEq Address] {environment : Environment Address}
  (gentle : environment.Gentle) {neighbours : Neighbours Address} {conf : Conf}
  {format : AddressFormat Address} {handler : LoadBalancerHandler Address (Store Address)}
  (drives : handler.drvLbaas = lbaasv2Driver environment neighbours format conf)
include gentle drives

theorem ensureLoadbalancer_leads (elsewhere : Elsewhere handler.drvServicePubIp)
    (endpoints : Endpoints Address) (state : LbaasState Address) (spec : ServiceSpec Address)
    (changed : Bool) :
    Leads (Holds state) (handler.ensureLoadbalancer endpoints state spec changed)
      (fun synced => Grown state synced.1) fun _ => Holds state := by
  rw [LoadBalancerHandler.ensureLoadbalancer]
  split
  · exact leads_ungrown _
  · rename_i ip missing address
    rw [drives]
    apply ((keeps_ensureLoadbalancer gentle (persistent_holds state) _ _ _ _).and_returns
      (ensureLoadbalancer_returns _ _ _ _)).bind
    intro lb
    apply leads_pure
    rintro store ⟨⟨sound, recorded⟩, there, _⟩
    constructor
    · intro other given
      exact ⟨by simp [missing], given.listeners, given.pools, given.members⟩
    · refine ⟨sound, ?_, recorded.listeners, recorded.pools, recorded.members⟩
      rintro _ ⟨⟩
      exact there
  · rename_i info missing address present
    apply Leads.bind
    · exact Keeps.of_same fun store => (elsewhere info store).2
    · intro _
      apply leads_pure
      rintro store ⟨sound, recorded⟩
      constructor
      · exact fun other given => ⟨given.loadbalancer, given.listeners, given.pools, given.members⟩
      · exact ⟨sound, recorded.loadbalancer, recorded.listeners, recorded.pools, recorded.members⟩
  · exact leads_ungrown _

theorem addListeners_leads (spec : ServiceSpec Address) (ports : List PortSpec)
    (state : LbaasState Address) (changed : Bool) :
    Leads (Holds state) (handler.addListeners spec ports state changed)
      (fun added => Grown state added.1) fun _ => Holds state := by
  induction ports generalizing state changed with
  | nil => exact leads_ungrown changed
  | cons port rest ih =>
      rw [LoadBalancerHandler.addListeners]
      cases present : state.loadbalancer with
      | none => exact leads_throw fun _ given => given
      | some lb =>
          dsimp only
          split
          · exact ih state changed
          · split
            · exact ih state changed
            · rw [drives]
              apply ((keeps_ensureListener gentle (persistent_holds state) _ lb _ _).and_returns
                (ensureListener_returns _ lb _ _)).bind
              intro ensured
              cases ensured with
              | none => exact (ih state changed).weaken fun _ both => both.1
              | some listener =>
                  rw [← present]
                  apply leads_grown (covers_addListener state listener) (ih _ true)
                  exact fun store both => holds_addListener both.1 (both.2 listener rfl).1

theorem ensurePools_leads (listeners : List Listener) (state : LbaasState Address) :
    Leads (Holds state) (handler.ensurePools listeners state) (Grown state)
      fun _ => Holds state := by
  induction listeners generalizing state with
  | nil => exact leads_pure fun _ given => ⟨.refl state, given⟩
  | cons listener rest ih =>
      rw [LoadBalancerHandler.ensurePools, drives]
      cases present : state.loadbalancer with
      | none =>
          intro store given
          rw [lbaasv2Driver, exec_throw_bind]
          exact leads_throw (fun _ given => given) store given
      | some lb =>
          apply ((keeps_ensurePool gentle (persistent_holds state) lb listener).and_returns
            (ensurePool_returns lb listener)).bind
          intro pool
          rw [← present]
          apply leads_grown (covers_addPool state pool) (ih _)
          exact fun store both => holds_addPool both.1 both.2.1

theorem addNewPools_leads (state : LbaasState Address) :
    Leads (Holds state) (handler.addNewPools state) (fun added => Grown state added.1)
      fun _ => Holds state :=
  (ensurePools_leads gentle drives _ state).bind fun _ => leads_pure fun _ grown => grown

theorem addMembers_leads (lsnrById : Dict Nat Listener) (pools : Dict (Option String) Pool)
    (current : List (String × Nat × Nat)) (targets : List PodTarget) (state : LbaasState Address)
    (changed : Bool) :
    Leads (Holds state) (handler.addMembers lsnrById pools current targets state changed)
      (fun added => Grown state added.1) fun _ => Holds state := by
  induction targets generalizing state changed with
  | nil => exact leads_ungrown changed
  | cons target rest ih =>
      rw [LoadBalancerHandler.addMembers]
      split
      · exact ih state changed
      · rename_i pool found
        split
        · exact ih state changed
        · apply Leads.bind (Keeps.of_settle _)
          intro subnetId
          cases subnetId with
          | none => exact ih state changed
          | some subnetId =>
              apply Leads.bind (Keeps.of_settle _)
              intro listenerPort
              rw [drives]
              cases present : state.loadbalancer with
              | none =>
                  intro store given
                  rw [lbaasv2Driver, exec_throw_bind]
                  exact leads_throw (fun _ given => given) store given
              | some lb =>
                  apply ((keeps_ensureMember gentle (persistent_holds state) _ _ lb _).and_returns
                    (ensureMember_returns _ _ lb _)).bind
                  intro member
                  rw [← present]
                  apply leads_grown (covers_addMember state member) (ih _ true)
                  exact fun store both => holds_addMember both.1 both.2.1

end

section

variable {handler : LoadBalancerHandler Address (Store Address)}

theorem syncLbaasSgs_leads (state : LbaasState Address) :
    Leads (Holds state) (handler.syncLbaasSgs state) (Grown state) fun _ => Holds state := by
  rw [LoadBalancerHandler.syncLbaasSgs]
  split
  · rename_i groups lb _ present
    apply leads_pure
    rintro store ⟨sound, recorded⟩
    constructor
    · refine fun other given => ⟨?_, given.listeners, given.pools, given.members⟩
      intro same listed
      rw [present] at listed
      cases listed
      exact given.loadbalancer { lb with securityGroups := groups } rfl
    · refine ⟨sound, ?_, recorded.listeners, recorded.pools, recorded.members⟩
      rintro _ ⟨⟩
      exact recorded.loadbalancer lb present
  · exact leads_throw fun _ given => given
  · exact leads_pure fun _ given => ⟨.refl state, given⟩
  · exact leads_throw fun _ given => given

end

section

variable [DecidableEq Address] {environment : Environment Address}
  (gentle : environment.Gentle) {neighbours : Neighbours Address} {conf : Conf}
  {format : AddressFormat Address} {handler : LoadBalancerHandler Address (Store Address)}
  (drives : handler.drvLbaas = lbaasv2Driver environment neighbours format conf)
include gentle drives

theorem addNewMembers_leads (endpoints : Endpoints Address) (state : LbaasState Address)
    (spec : ServiceSpec Address) :
    Leads (Holds state) (handler.addNewMembers endpoints state spec)
      (fun added => Grown state added.1) fun _ => Holds state := by
  apply leads_grown_bind (syncLbaasSgs_leads state)
  intro synced
  apply Leads.bind (Keeps.of_settle _)
  intro pools
  exact addMembers_leads gentle drives _ _ _ _ synced false

theorem syncLbaasLoadbalancer_leads (elsewhere : Elsewhere handler.drvServicePubIp)
    (endpoints : Endpoints Address) (state : LbaasState Address) (spec : ServiceSpec Address) :
    Leads (Holds (keptLoadbalancer state spec))
      (handler.syncLbaasLoadbalancer endpoints state spec)
      (fun synced => Grown (keptLoadbalancer state spec) synced.1)
      fun _ => Holds (keptLoadbalancer state spec) := by
  apply (releaseReplaced_leads gentle drives elsewhere).bind
  rintro ⟨released, changed⟩
  apply Leads.of_fact
  rintro rfl
  exact ensureLoadbalancer_leads gentle drives elsewhere endpoints _ spec changed

theorem syncLbaasListeners_leads (elsewhere : Elsewhere handler.drvServicePubIp)
    (endpoints : Endpoints Address) (state : LbaasState Address) (spec : ServiceSpec Address) :
    Leads (Holds (keptLoadbalancer (keptListeners state) spec))
      (handler.syncLbaasListeners endpoints state spec)
      (fun synced => Grown (keptLoadbalancer (keptListeners state) spec) synced.1)
      fun _ => Holds (keptLoadbalancer (keptListeners state) spec) := by
  apply (removeUnusedListeners_leads gentle drives (part_keptLoadbalancer _ spec)).bind
  rintro ⟨removed, _⟩
  apply Leads.of_fact
  rintro rfl
  apply leads_grown_bind (syncLbaasLoadbalancer_leads gentle drives elsewhere endpoints _ spec)
  intro synced
  apply leads_grown_bind (addListeners_leads gentle drives spec _ synced.1 false)
  exact fun added => leads_ungrown _

theorem syncLbaasPools_leads (elsewhere : Elsewhere handler.drvServicePubIp)
    (endpoints : Endpoints Address) (state : LbaasState Address) (spec : ServiceSpec Address) :
    Leads (Holds (keptLoadbalancer (keptListeners (keptPools state spec)) spec))
      (handler.syncLbaasPools endpoints state spec)
      (fun synced => Grown (keptLoadbalancer (keptListeners (keptPools state spec)) spec) synced.1)
      fun _ => Holds (keptLoadbalancer (keptListeners (keptPools state spec)) spec) := by
  have below : Part (keptLoadbalancer (keptListeners (keptPools state spec)) spec)
      (keptPools state spec) :=
    (part_keptLoadbalancer _ spec).trans (part_withoutListeners _ _)
  apply (removeUnusedPools_leads gentle drives below).bind
  rintro ⟨removed, _⟩
  apply Leads.of_fact
  rintro rfl
  apply leads_grown_bind (syncLbaasListeners_leads gentle drives elsewhere endpoints _ spec)
  intro synced
  apply leads_grown_bind (addNewPools_leads gentle drives synced.1)
  exact fun added => leads_ungrown _

/-- A synchronization: what it does not release stays, and what it returns is there. -/
theorem syncLbaasMembers_leads (formats : handler.format = format)
    (elsewhere : Elsewhere handler.drvServicePubIp) (endpoints : Endpoints Address)
    (state : LbaasState Address) (spec : ServiceSpec Address) :
    Leads (Holds (kept format endpoints state spec))
      (handler.syncLbaasMembers endpoints state spec)
      (fun synced => Grown (kept format endpoints state spec) synced.1)
      fun _ => Holds (kept format endpoints state spec) := by
  rw [LoadBalancerHandler.syncLbaasMembers]
  split
  · rename_i pods
    apply (removeUnusedMembers_leads gentle drives formats pods
      (part_kept_members format endpoints state spec)).bind
    rintro ⟨removed, _⟩
    apply Leads.of_fact
    rintro rfl
    apply leads_grown_bind (syncLbaasPools_leads gentle drives elsewhere endpoints _ spec)
    intro synced
    apply leads_grown_bind (addNewMembers_leads gentle drives endpoints synced.1 spec)
    exact fun added => leads_ungrown _
  · rename_i podless
    have whole : keptMembers format endpoints state spec = state := by
      simp [keptMembers, podless]
    rw [kept, whole]
    exact syncLbaasPools_leads gentle drives elsewhere endpoints state spec

end

/-! ## Events -/

/-- Who tries to serve an event: a handler with `LBaaSv2Driver`, where nobody else deletes. -/
structure Worker [DecidableEq Address] (format : AddressFormat Address) where
  environment : Environment Address
  gentle : environment.Gentle
  neighbours : Neighbours Address
  conf : Conf
  handler : LoadBalancerHandler Address (Store Address)
  drives : handler.drvLbaas = lbaasv2Driver environment neighbours format conf
  formats : handler.format = format
  elsewhere : Elsewhere handler.drvServicePubIp

/-- An event of endpoints, with the tries of which nothing was recorded and the last one. -/
structure Event [DecidableEq Address] (format : AddressFormat Address) where
  endpoints : Endpoints Address
  spec : ServiceSpec Address
  tries : List (Worker format)
  last : Worker format

section

variable [DecidableEq Address] {format : AddressFormat Address}

/-- A synchronization, of which only what it leaves at Octavia counts. -/
def Event.tried (event : Event format) (state : LbaasState Address) (store : Store Address)
    (worker : Worker format) : Store Address :=
  (exec (worker.handler.syncLbaasMembers event.endpoints state event.spec) store).2

/-- An event is served: the recorded state is replaced when a synchronization returns. -/
def served (format : AddressFormat Address) :
    Step (LbaasState Address × Store Address) (Event format) :=
  fun (state, store) event =>
    match exec (event.last.handler.syncLbaasMembers event.endpoints state event.spec)
      (event.tries.foldl (event.tried state) store) with
    | (.ok synced, after) => some (synced.1, after)
    | (.error _, _) => none

/-- Tries keep what a synchronization does not release. -/
theorem tries_keep (event : Event format) (state : LbaasState Address)
    (tries : List (Worker format)) (store : Store Address)
    (holds : Holds (kept format event.endpoints state event.spec) store) :
    Holds (kept format event.endpoints state event.spec)
      (tries.foldl (event.tried state) store) := by
  induction tries generalizing store with
  | nil => exact holds
  | cons worker rest ih =>
      apply ih
      have synced := syncLbaasMembers_leads worker.gentle worker.drives worker.formats
        worker.elsewhere event.endpoints state event.spec
      rw [Event.tried]
      rcases ran : exec (worker.handler.syncLbaasMembers event.endpoints state event.spec) store
        with ⟨outcome, after⟩
      cases outcome with
      | ok result =>
          obtain ⟨covers, sound, recorded⟩ := (synced store holds).1 result after ran
          exact ⟨sound, covers after recorded⟩
      | error ex => exact (synced store holds).2 ex after ran

theorem preserved_served :
    PreservedBy (served format) (fun _ _ => True) fun pair => Holds pair.1 pair.2 := by
  rintro ⟨state, store⟩ event ⟨result, after⟩ _ holds taken
  have start : Holds (kept format event.endpoints state event.spec) store :=
    ⟨holds.1, (part_kept format event.endpoints state event.spec).covers store holds.2⟩
  have tried := tries_keep event state event.tries store start
  simp only [served] at taken
  split at taken
  · rename_i synced ended ran
    cases taken
    exact ((syncLbaasMembers_leads event.last.gentle event.last.drives event.last.formats
      event.last.elsewhere event.endpoints state event.spec _ tried).1 synced _ ran).2
  · cases taken

/-- Along any events of endpoints of a service, each with any tries whose results were not
recorded and one whose result was, the recorded load balancer, listeners, pools and members are
at Octavia: as long as nobody else deletes anything there and no load balancer goes to
`ERROR`.  Octavia gives the ids of listeners once. -/
theorem recorded_exists (events : List (Event format)) (state result : LbaasState Address)
    (store after : Store Address) (sound : store.Sound) (recorded : Recorded state store)
    (ran : run (served format) events (state, store) = some (result, after)) :
    after.Sound ∧ Recorded result after :=
  (guardedRun_of_run ran).invariant preserved_served ⟨sound, recorded⟩

end

/-! ## A service whose port changes -/

/-- Octavia provisions at once, and answers in its second round that all is there already. -/
def provisioning : Environment String where
  endings number asks :=
    if asks = .create ∧ (number = 5 ∨ number = 8 ∨ number = 11) then .refused .neutronConflict
    else .served
  moves _ store :=
    { store with
      balancers := store.balancers.map fun lb => { lb with provisioningStatus := .active } }

theorem gentle_provisioning : provisioning.Gentle where
  within _ store := by
    refine ⟨?_, fun _ => id, fun _ => id, fun _ => id⟩
    intro lb listed
    exact ⟨_, List.mem_map_of_mem listed, rfl, rfl, rfl, rfl, rfl⟩
  sound _ _ sound := by
    refine ⟨?_, sound.listeners, sound.issued⟩
    intro lb listed
    obtain ⟨before, _, rfl⟩ := List.mem_map.mp listed
    simp

/-- Neutron without security groups for listeners. -/
def neutron : Neighbours String where
  nestedRelease _ := throw (.other "RecursionError")
  listenersSg _ := .ok none
  deleteSecurityGroup _ := .ok ⟨⟩
  createLbSecurityGroupRule _ _ := .ok ⟨⟩
  applyMembersSecurityGroups _ _ _ := .ok ⟨⟩
  deleteListenerRule _ _ := .ok ⟨⟩

def configured : Conf where
  doubleListeners := true
  provider := none
  sgModeCreate := false
  enforceSgRules := false

def worker : Worker AddressFormat.text where
  environment := provisioning
  gentle := gentle_provisioning
  neighbours := neutron
  conf := configured
  handler :=
    { format := .text
      drvLbaas := lbaasv2Driver provisioning neutron .text configured
      drvServicePubIp :=
        { acquireServicePubIpInfo := fun _ _ => pure none
          associatePubIp := fun _ _ => pure ⟨⟩
          disassociatePubIp := fun _ => pure ⟨⟩
          releasePubIp := fun _ => pure ⟨⟩ }
      api := { patchStatus := fun _ => pure ⟨⟩, setLbaasState := fun _ => pure ⟨⟩ }
      memberMode := .l3
      securityGroups := .ok []
      servicePorts := .ok [] }
  drives := rfl
  formats := rfl
  elsewhere _ _ := ⟨rfl, rfl⟩

/-- The service gets a port. -/
def exposed (port : Nat) (tries : List (Worker AddressFormat.text)) :
    Event AddressFormat.text where
  endpoints := { namespaceName := "default", name := "web" }
  spec :=
    { ip := some "10.0.0.3"
      ports := [{ protocol := "TCP", port, targetPort := "http" }] }
  tries
  last := worker

theorem recorded_exists_exposed :
    ∃ result after,
      run (served .text) [exposed 80 [worker], exposed 8080 []] ({}, {}) = some (result, after) ∧
        result.listeners.map (·.port) = [8080] ∧ after.Sound ∧ Recorded result after := by
  have ports : ((run (served .text) [exposed 80 [worker], exposed 8080 []] ({}, {})).map
      fun pair => pair.1.listeners.map (·.port)) = some [8080] := by decide +kernel
  obtain ⟨⟨result, after⟩, ran, listed⟩ := Option.map_eq_some_iff.mp ports
  refine ⟨result, after, ran, listed, ?_⟩
  apply recorded_exists _ _ result _ after _ _ ran
  · constructor <;> simp
  · constructor <;> simp

end KuryrKubernetes.Lbaas.Octavia

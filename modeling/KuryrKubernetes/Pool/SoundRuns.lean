import KuryrKubernetes.Pool.Freed

/-!
# Available ports of the nested driver exist

In every run of the nested driver whose steps are orderly, each available port has a VIF and
exists in Neutron.  A step is out of order where a port is deleted that stays in the pools, or
comes back to them later: most of all where `free_pool` looks for a port under another key than
it was filed under.
-/

namespace KuryrKubernetes.Pool.NestedVifPool

open KuryrKubernetes.Data
open KuryrKubernetes.Effect
open KuryrKubernetes.Transition

/-! ## Populating on demand -/

section

variable {options : Options} {answers : Answers} {before : World}

/-- A pod of which only the address of its host is known. -/
def podAt (trunkIp : String) : Pod where
  name := ""
  namespaceName := ""
  uid := ""
  hostIp := some trunkIp

/-- With an integer, ports are requested as for a pod on the host. -/
theorem requestVifsAt_int (trunkIp projectId : String) (subnets : Dict String Network)
    (securityGroups : List String) (count : Int) :
    requestVifsAt options answers trunkIp projectId subnets securityGroups (.int count) =
      requestVifs .nested options answers (podAt trunkIp) projectId subnets securityGroups
        count.toNat := by
  cases refused : answers.fails (.getTrunk trunkIp) with
  | true =>
      simp only [requestVifsAt, requestVifs, requestVifsNested, getParentTrunk, podAt, refused,
        ite_true]
      rfl
  | false =>
      simp only [requestVifsAt, requestVifs, requestVifsNested, getParentTrunk, podAt, refused,
        Bool.false_eq_true, ite_false]
      rfl

/-- With a float, no port is created. -/
theorem exec_requestVifsAt_float (trunkIp projectId : String) (subnets : Dict String Network)
    (securityGroups : List String) (double : Int) (world : World) :
    ∃ exception, exec (requestVifsAt options answers trunkIp projectId subnets securityGroups
      (.float double)) world = (.error exception, world) := by
  cases refused : answers.fails (.getTrunk trunkIp) with
  | true =>
      simp only [requestVifsAt, refused, ite_true]
      exact ⟨_, rfl⟩
  | false =>
      simp only [requestVifsAt, refused, Bool.false_eq_true, ite_false]
      cases ids : (subnets.values.map Network.id).dedup with
      | nil =>
          simp only [getNetworkId, ids]
          exact ⟨_, rfl⟩
      | cons network others =>
          simp only [getNetworkId, ids]
          cases others with
          | nil => exact ⟨_, rfl⟩
          | cons other rest => exact ⟨_, rfl⟩

theorem requestVifsAt_supplies (trunkIp projectId : String) (subnets : Dict String Network)
    (securityGroups : List String) (numPorts : NumPorts) :
    Supplies answers.newPortIds
      (requestVifsAt options answers trunkIp projectId subnets securityGroups numPorts) := by
  cases numPorts with
  | int count =>
      rw [requestVifsAt_int]
      exact requestVifs_supplies _ _ _ _ _ _ _
  | float double =>
      have raises := @exec_requestVifsAt_float options answers trunkIp projectId subnets
        securityGroups double
      constructor
      · intro world
        rcases raises world with ⟨exception, raised⟩
        rw [raised]
        rfl
      · intro world
        rcases raises world with ⟨exception, raised⟩
        rw [raised]
        exact (groupsFrame _).refl world
      · intro before after vifs ran
        rcases raises before with ⟨exception, raised⟩
        rw [raised] at ran
        cases ran
      · intro before after vifs ran
        rcases raises before with ⟨exception, raised⟩
        rw [raised] at ran
        cases ran

/-- Filing VIFs one by one. -/
theorem exec_fileVifs (poolKey : PoolKey) (group : SgKey) (vifs : List Vif) {world : World}
    {pools : Pools} (present : world.pools = some pools) :
    exec (vifs.forM (fileVif poolKey group)) world =
      (.ok ⟨⟩, world.withPools (vifs.foldl (addVif poolKey group) pools)) := by
  induction vifs generalizing world pools with
  | nil =>
      rw [List.foldl_nil, World.withPools_eq_self present]
      rfl
  | cons vif vifs ih =>
      have filed : exec (fileVif poolKey group vif) world =
          (.ok ⟨⟩, world.withPools (addVif poolKey group pools vif)) := by
        rw [fileVif, exec_changePools, present]
      rw [forM_cons_eq, exec_bind_of_ok filed, ih (World.pools_withPools _ _)]
      rfl

theorem exec_fileVifs_of_none (poolKey : PoolKey) (group : SgKey) (vifs : List Vif)
    {world : World} (present : world.pools = none) :
    (exec (vifs.forM (fileVif poolKey group)) world).2 = world := by
  cases vifs with
  | nil => rfl
  | cons vif vifs =>
      have raised : exec (fileVif poolKey group vif) world = (.error .attributeError, world) := by
        rw [fileVif, exec_changePools, present]
      rw [forM_cons_eq, exec_bind_of_error raised]

/-- `force_populate_pool` files ports that exist. -/
theorem forcePopulatePool_sound (trunkIp projectId : String) (subnets : Dict String Network)
    (securityGroups : List String) (numPorts : Option NumPorts) (sound : before.Sound)
    (distinct : answers.newPortIds.Nodup)
    (new : ∀ id ∈ answers.newPortIds, before.pooled id = 0) :
    (exec (forcePopulatePool options answers trunkIp projectId subnets securityGroups numPorts)
      before).2.Sound := by
  have supplies : Supplies answers.newPortIds
      (requestVifsAt options answers trunkIp projectId subnets securityGroups
        (givenOrBatch options numPorts)) :=
    requestVifsAt_supplies trunkIp projectId subnets securityGroups _
  have requested := supplies.sound sound new
  rw [forcePopulatePool, exec_bind]
  rcases ran : exec (requestVifsAt options answers trunkIp projectId subnets securityGroups
    (givenOrBatch options numPorts)) before with ⟨outcome, middle⟩
  rw [ran] at requested
  cases outcome with
  | error exception => exact requested
  | ok vifs =>
      simp only
      cases present : middle.pools with
      | none =>
          rw [exec_fileVifs_of_none _ _ _ present]
          exact requested
      | some pools =>
          rw [exec_fileVifs _ _ _ present]
          exact supplies.file ran sound distinct new present _ _

/-- `populate_pool` files ports that exist. -/
theorem populatePool_sound (trunkIp projectId : String) (subnets : Dict String Network)
    (securityGroups : List String) (sound : before.Sound) (distinct : answers.newPortIds.Nodup)
    (new : ∀ id ∈ answers.newPortIds, before.pooled id = 0) :
    (exec (populatePool options answers trunkIp projectId subnets securityGroups)
      before).2.Sound := by
  rw [populatePool, exec_get_bind]
  split
  · cases present : before.pools with
    | none =>
        rw [exec_bind_of_error (by simp [getPools, present] :
          exec getPools before = (.error .attributeError, before))]
        exact sound
    | some pools =>
        rw [exec_bind_of_ok (exec_getPools present)]
        simp only
        split
        · exact forcePopulatePool_sound _ _ _ _ _ sound distinct new
        · exact sound
  · exact sound

end

/-! ## Orderly runs -/

/-- The steps that delete no port which stays in the pools or comes back to them.
A release is of a port that exists and is not available.  A port of a full pool, or of a network
whose pools are deleted, is deleted by Neutron when it is asked to.  A recovery finds no port
that is pooled.  `free_pool` deletes only ports that are not recyclable, and takes those that are
available from the list they are in. -/
def Orderly (options : Options) (state : State) : NestedAction → Prop
  | .shared (.releaseVif answers pod vif _) =>
      ((getHostAddr .nested pod).isNone ∧ (answers.trunks.parentIp vif.id).isNone) ∨
        (state.world.available vif.id = 0 ∧ vif.id ∈ state.world.neutron)
  | .shared (.triggerReturnToPool answers) =>
      options.portsPoolMax = 0 ∨
        ∀ item ∈ state.world.recyclables, answers.fails (.deletePort item.1) = false
  | .shared (.recoverPools answers) =>
      (∀ port ∈ recoveredIds .nested options answers state.world.neutron,
        state.world.pooled port = 0) ∧
      ∀ port ∈ detachedPorts answers (availableSubports options answers state.world.neutron),
        state.world.pooled port = 0
  | .freePool answers trunkIps =>
      (∀ port ∈ detachedPorts answers (availableSubports options answers state.world.neutron),
        state.world.pooled port = 0) ∧
      ∀ item ∈ chosenSubports answers trunkIps,
        ((availableSubports options answers state.world.neutron).get? item.2.1).all fun record =>
          state.world.InPlace (foundKey answers item.1.ip record)
            (sortedGroups record.securityGroupIds) item.2.1
  | .deleteNetworkPools answers netId _ =>
      (options.portsPoolMax = 0 ∨
        ∀ item ∈ state.world.recyclables, answers.fails (.deletePort item.1) = false) ∧
      ∀ port ∈ state.world.networkPorts netId, answers.fails (.deletePort port) = false
  | .losePort port => state.world.pooled port = 0
  | _ => True

instance (options : Options) (state : State) (action : NestedAction) :
    Decidable (Orderly options state action) :=
  match action with
  | .shared (.releaseVif ..) => inferInstanceAs (Decidable ((_ ∧ _) ∨ (_ ∧ _)))
  | .shared (.triggerReturnToPool answers) =>
      inferInstanceAs (Decidable (_ ∨
        ∀ item ∈ state.world.recyclables, answers.fails (.deletePort item.1) = false))
  | .shared (.recoverPools answers) =>
      inferInstanceAs (Decidable
        ((∀ port ∈ recoveredIds .nested options answers state.world.neutron, _) ∧
          ∀ port ∈ detachedPorts answers (availableSubports options answers state.world.neutron),
            _))
  | .freePool answers trunkIps =>
      inferInstanceAs (Decidable
        ((∀ port ∈ detachedPorts answers (availableSubports options answers state.world.neutron),
          _) ∧ ∀ item ∈ chosenSubports answers trunkIps, _ = true))
  | .deleteNetworkPools answers netId _ =>
      inferInstanceAs (Decidable
        ((_ ∨ ∀ item ∈ state.world.recyclables, answers.fails (.deletePort item.1) = false) ∧
          ∀ port ∈ state.world.networkPorts netId, answers.fails (.deletePort port) = false))
  | .losePort port => inferInstanceAs (Decidable (state.world.pooled port = 0))
  | .shared (.requestVif ..) | .shared (.populatePool ..) | .shared .restart
  | .shared .syncPools | .shared (.removeSgFromPools ..) | .shared (.updateVifSgs ..)
  | .shared (.changePort ..) | .forcePopulatePool .. | .populatePool .. => .isTrue trivial

section

variable {options : Options} {state : State}

theorem sound_initial (neutron : Dict String NeutronPort) : (initial neutron).world.Sound := by
  constructor
  · intro port
    exact Nat.zero_le 1
  · intro port pooled
    exact absurd pooled (Nat.lt_irrefl 0)

/-- Dictionaries without ports. -/
theorem sound_of_unpooled {world : World} (unpooled : ∀ port, world.pooled port = 0) :
    world.Sound := by
  constructor
  · intro port
    rw [unpooled]
    exact Nat.zero_le 1
  · intro port pooled
    rw [unpooled] at pooled
    exact absurd pooled (Nat.lt_irrefl 0)

/-- New ids are not pooled. -/
theorem pooled_of_givesOut {ids : List String} (givesOut : state.givesOut ids) :
    ∀ id ∈ ids, state.world.pooled id = 0 := by
  intro id member
  rcases givesOut.2 id member with ⟨_, available, recycling, _⟩
  rw [World.pooled, available, recycling]

theorem changePort_sound {world : World} (sound : world.Sound) (port : String)
    (record : NeutronPort) : (world.changePort port record).Sound := by
  apply sound.of_fewer
  · intro other
    exact le_refl _
  · intro other _ backed
    refine ⟨backed.vif.of_pools_eq rfl, ?_⟩
    rw [World.changePort]
    cases world.neutron.get? port with
    | none => exact Dict.mem_set.mpr (.inr backed.inNeutron)
    | some old => exact Dict.mem_set.mpr (.inr backed.inNeutron)

/-- A release records nothing, or the port of a VIF that may be recycled. -/
theorem releaseVif_sound {answers : Answers} {pod : Pod} {vif : Vif} {projectId : String}
    {world : World} (sound : world.Sound)
    (orderly : ((getHostAddr .nested pod).isNone ∧ (answers.trunks.parentIp vif.id).isNone) ∨
      (world.available vif.id = 0 ∧ vif.id ∈ world.neutron)) :
    (exec (releaseVif .nested answers pod vif projectId) world).2.Sound := by
  cases host : getHostAddr .nested pod with
  | some hostAddr =>
      simp only [releaseVif, host]
      rcases orderly with ⟨unknown, _⟩ | ⟨free, inNeutron⟩
      · rw [host] at unknown
        cases unknown
      · exact releaseVifAt_sound hostAddr vif projectId sound free inNeutron
  | none =>
      cases parent : answers.trunks.parentIp vif.id with
      | none =>
          simp only [releaseVif, host, parent]
          exact sound
      | some hostAddr =>
          simp only [releaseVif, host, parent]
          rcases orderly with ⟨_, unknown⟩ | ⟨free, inNeutron⟩
          · rw [parent] at unknown
            cases unknown
          · exact releaseVifAt_sound hostAddr vif projectId sound free inNeutron

/-- The methods that both drivers have. -/
theorem step_sound {action : Action} {target : State} (sound : state.world.Sound)
    (orderly : Orderly options state (.shared action))
    (taken : step .nested options state action = some target) : target.world.Sound := by
  cases action with
  | requestVif answers pod projectId subnets securityGroups =>
      cases taken
      have backed (port : String) :=
        requestVif_keepsBacked options answers port pod projectId subnets securityGroups state.world
      rcases ran : exec (requestVif .nested options answers pod projectId subnets securityGroups)
        state.world with ⟨outcome, after⟩
      rw [ran] at backed
      have soundAfter : after.Sound := by
        apply sound.of_fewer
        · intro port
          rcases requestVif_accounts ran port with ⟨recycling, available⟩
          rw [World.pooled, World.pooled]
          omega
        · intro port _
          exact backed port
      exact soundAfter
  | populatePool answers now poolKey pod subnets securityGroups =>
      simp only [step, Option.ite_none_right_eq_some, Option.some.injEq] at taken
      rcases taken with ⟨givesOut, rfl⟩
      exact Pool.populatePool_sound now poolKey pod subnets securityGroups sound givesOut.1
        (pooled_of_givesOut givesOut)
  | releaseVif answers pod vif projectId =>
      cases taken
      exact releaseVif_sound sound orderly
  | triggerReturnToPool answers =>
      cases taken
      exact triggerReturnToPool_sound sound orderly
  | restart =>
      cases taken
      exact sound_of_unpooled fun _ => rfl
  | syncPools =>
      cases taken
      exact sound_of_unpooled fun _ => rfl
  | recoverPools answers =>
      cases taken
      exact recoverPools_sound sound orderly.1 orderly.2
  | removeSgFromPools answers sgId netId =>
      cases taken
      apply sound.of_fewer
      · intro port
        exact pooled_le_of_gains_zero (removeSgFromPools_gains answers sgId netId state.world port)
      · intro port _
        exact removeSgFromPools_keepsBacked answers port sgId netId state.world
  | updateVifSgs answers pod securityGroups =>
      cases taken
      apply sound.keeps
      · intro port
        exact keepsCounters_of_keepsPools port (updateVifSgs_keepsPools answers pod securityGroups)
      · intro port
        exact updateVifSgs_keepsBacked answers port pod securityGroups
  | changePort port record =>
      cases taken
      exact changePort_sound sound port record

/-- An orderly step keeps the pools sound. -/
theorem sound_preserved (options : Options) :
    PreservedBy (nestedStep options) (Orderly options) fun state => state.world.Sound := by
  intro source label target orderly sound taken
  cases label with
  | shared action => exact step_sound sound orderly taken
  | freePool answers trunkIps =>
      cases taken
      apply freePool_sound sound orderly.1
      intro item member record found
      have inPlace := orderly.2 item member
      rw [found] at inPlace
      exact of_decide_eq_true inPlace
  | deleteNetworkPools answers netId detaches =>
      cases taken
      exact deleteNetworkPools_sound sound orderly.1 orderly.2
  | forcePopulatePool answers trunkIp projectId subnets securityGroups numPorts =>
      simp only [nestedStep, Option.ite_none_right_eq_some, Option.some.injEq] at taken
      rcases taken with ⟨givesOut, rfl⟩
      exact forcePopulatePool_sound trunkIp projectId subnets securityGroups numPorts sound
        givesOut.1 (pooled_of_givesOut givesOut)
  | populatePool answers trunkIp projectId subnets securityGroups =>
      simp only [nestedStep, Option.ite_none_right_eq_some, Option.some.injEq] at taken
      rcases taken with ⟨givesOut, rfl⟩
      exact populatePool_sound trunkIp projectId subnets securityGroups sound givesOut.1
        (pooled_of_givesOut givesOut)
  | losePort port =>
      cases taken
      exact sound.frees ⟨spares_lose port source.world, .inl orderly⟩

/-- In every orderly run of the nested driver each available port has a VIF and exists in
Neutron. -/
theorem available_ports_exist {neutron : Dict String NeutronPort} {labels : List NestedAction}
    {target : State}
    (guarded : GuardedRun (nestedStep options) (Orderly options) (initial neutron) labels target)
    (poolKey : PoolKey) (group : SgKey) (port : String)
    (available : port ∈ target.world.filed poolKey group) : target.world.Backed port := by
  have sound := guarded.invariant (sound_preserved options) (sound_initial neutron)
  apply sound.backed
  cases present : target.world.pools with
  | none =>
      rw [World.filed, present] at available
      exact absurd available List.not_mem_nil
  | some pools =>
      rw [World.filed_of_pools present] at available
      cases pool : pools.availablePortsPools.get? poolKey with
      | none =>
          rw [Pools.filed, Dict.getD_of_get?_eq_none ∅ pool,
            Dict.getD_of_get?_eq_none [] (Dict.get?_empty group)] at available
          exact absurd available List.not_mem_nil
      | some poolPorts =>
          have member := (mem_poolMembers_iff pool).mpr ⟨group, available⟩
          have positive := List.count_pos_iff.mpr member
          rw [count_poolMembers] at positive
          have counted : PoolPorts.occurrences poolPorts port ≤ pools.available port :=
            Dict.weight_le_total (fun _ poolPorts => PoolPorts.occurrences poolPorts port)
              (Dict.mem_items_iff.mpr pool)
          rw [World.pooled, World.available_of_pools present]
          omega

end

/-! ## Two ports of a trunk -/

namespace TwoSubports

def trunkIp : String := "10.0.0.9"

/-- The pool of the trunk. -/
def poolKey : PoolKey :=
  ⟨trunkIp, "project", some "network"⟩

/-- The answers to a request for two ports. -/
def creation : Answers where
  newPortIds := ["first", "second"]
  freeVlanIds := [101, 102]
  defaultGroups := ["default"]

/-- The answers when the trunk is listed. -/
def listing : Answers where
  trunks := ⟨[⟨"trunk", trunkIp, [("first", 101), ("second", 102)]⟩], by decide +kernel⟩
  networkOfSubnet := fun _ => "network"

/-- A port that became active. -/
def activePort : NeutronPort where
  projectId := "project"
  networkId := "network"
  subnetId := "subnet"
  securityGroupIds := []
  isActive := true

/-- The pool is populated with ports of these groups, one of them becomes active, and the pool
is freed. -/
def populatedAndFreed (groups : List String) : List NestedAction :=
  [.shared .syncPools, .shared (.recoverPools {}),
    .forcePopulatePool creation trunkIp "project" oneSubnet groups (some (.int 2)),
    .shared (.changePort "first" activePort), .freePool listing [trunkIp]]

end TwoSubports

open TwoSubports

/-- With a group the freed port leaves the pool, and the other one exists. -/
theorem second_subport_exists :
    ∃ target, run (nestedStep {}) (populatedAndFreed ["group"]) (initial ∅) = some target ∧
      target.world.filed poolKey (some ["group"]) = ["second"] ∧
        target.world.Backed "second" := by
  have executed : ((runIf (nestedStep {}) (Orderly {}) (populatedAndFreed ["group"])
      (initial ∅)).map fun target => target.world.filed poolKey (some ["group"])) =
        some ["second"] := by decide +kernel
  obtain ⟨target, reached, filed⟩ := Option.map_eq_some_iff.mp executed
  have guarded := guardedRun_of_runIf reached
  have listed : "second" ∈ target.world.filed poolKey (some ["group"]) := by
    rw [filed]
    exact List.mem_singleton.mpr rfl
  exact ⟨target, guarded.run_eq_some, filed,
    available_ports_exist guarded poolKey (some ["group"]) "second" listed⟩

/-- Without groups the ports are filed under the empty key, where the freed port is not looked
for: it stays available. -/
theorem freed_port_stays_available :
    ¬∀ (options : Options) (neutron : Dict String NeutronPort) (labels : List NestedAction)
      (target : State), run (nestedStep options) labels (initial neutron) = some target →
        ∀ poolKey group port, port ∈ target.world.filed poolKey group →
          target.world.Backed port := by
  intro always
  have executed : ((run (nestedStep {}) (populatedAndFreed []) (initial ∅)).map fun target =>
      (target.world.filed poolKey (some []), decide ("first" ∈ target.world.neutron))) =
        some (["first", "second"], false) := by decide +kernel
  obtain ⟨target, reached, observed⟩ := Option.map_eq_some_iff.mp executed
  rcases Prod.mk.inj observed with ⟨filed, gone⟩
  have listed : "first" ∈ target.world.filed poolKey (some []) := by
    rw [filed]
    exact List.mem_cons_self
  have backed := always {} ∅ (populatedAndFreed []) target reached poolKey (some []) "first" listed
  exact of_decide_eq_false gone backed.inNeutron

end KuryrKubernetes.Pool.NestedVifPool

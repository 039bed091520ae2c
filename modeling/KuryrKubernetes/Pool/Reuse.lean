import KuryrKubernetes.Pool.Pacing
import KuryrKubernetes.Pool.Selection
import KuryrKubernetes.Pool.SoundRuns

/-!
# Requests in every state of a run

Whether a request gets the port that it should get, in whatever state the operations of the
driver have left the pools.  The dates in the pools come from a clock that is never negative.
-/

namespace KuryrKubernetes.Pool

open KuryrKubernetes.Data
open KuryrKubernetes.Effect
open KuryrKubernetes.Transition

/-! ## Dates -/

/-- No date lies before the start of the clock. -/
def World.Dated (world : World) : Prop :=
  ∀ poolKey, ∀ item ∈ (world.updatesOf poolKey).items, 0 ≤ item.2

/-- What keeps the dates keeps them after the start of the clock. -/
theorem keepsDated_of_keepsUpdates {α : Type} {program : PoolM α}
    (kept : ∀ poolKey, (updatesFrame poolKey).Keeps program) :
    (Frame.stable World.Dated).Keeps program := by
  intro world dated poolKey
  have same : (exec program world).2.updatesOf poolKey = world.updatesOf poolKey :=
    kept poolKey world
  rw [same]
  exact dated poolKey

theorem keepsDated_of_keepsPools {α : Type} {program : PoolM α}
    (kept : poolsFrame.Keeps program) : (Frame.stable World.Dated).Keeps program :=
  keepsDated_of_keepsUpdates fun _ => keepsUpdates_of_keepsPools kept

theorem recordUpdate_keepsDated (poolKey : PoolKey) (group : SgKey) {date : Int}
    (present : 0 ≤ date) :
    (Frame.stable World.Dated).Keeps (recordUpdate poolKey group date) := by
  intro world dated
  rw [recordUpdate, exec_changePools]
  cases found : world.pools with
  | none => exact dated
  | some pools =>
      intro other item listed
      rw [World.updatesOf_of_pools rfl] at listed
      dsimp only at listed
      rw [Dict.getD, Dict.get?_set] at listed
      split at listed
      · rcases List.mem_singleton.mp listed with rfl
        exact present
      · apply dated other item
        rw [World.updatesOf_of_pools found]
        exact listed

theorem fileVifs_keepsDated (poolKey : PoolKey) (group : SgKey) {lastUpdate : Int}
    (present : 0 ≤ lastUpdate) (vifs : List Vif) :
    (Frame.stable World.Dated).Keeps (fileVifs poolKey group lastUpdate vifs) := by
  apply fileVifs_keeps
  · exact recordUpdate_keepsDated poolKey group present
  · intro change same
    apply keepsDated_of_keepsUpdates
    intro other
    apply changePools_keepsUpdates
    intro pools
    rw [same]

theorem populateRecovered_keepsDated (driver : Driver) (options : Options) (answers : Answers)
    {now : Int} (present : 0 ≤ now) (poolKey : PoolKey) (pod : Pod)
    (subnets : Dict String Network) (securityGroups : List String) :
    (Frame.stable World.Dated).Keeps
      (populateRecovered driver options answers now poolKey pod subnets securityGroups) := by
  intro world dated
  unfold populateRecovered
  cases found : world.pools with
  | none =>
      rw [exec_getPools_bind_of_none found]
      exact dated
  | some pools =>
      rw [exec_bind_of_ok (exec_getPools found)]
      have restored : 0 ≤ (pools.lastUpdate.getD poolKey ∅).getD (some securityGroups) 0 := by
        cases known : (pools.lastUpdate.getD poolKey ∅).get? (some securityGroups) with
        | none => rw [Dict.getD_of_get?_eq_none 0 known]
        | some date =>
            rw [Dict.getD_of_get?_eq_some 0 known]
            apply dated poolKey (some securityGroups, date)
            rw [World.updatesOf_of_pools found]
            exact Dict.mem_items_iff.mpr known
      have fills : (Frame.stable World.Dated).Keeps
          (fillPool driver options answers poolKey pod subnets securityGroups
            ((pools.lastUpdate.getD poolKey ∅).getD (some securityGroups) 0)) := by
        apply (getPools_keeps _).bind
        intro _
        apply Frame.Keeps.ite
        · apply (keepsDated_of_keepsPools (requestVifs_keepsPools _ _ _ _ _ _ _ _)).bind
          intro vifs
          exact fileVifs_keepsDated poolKey _ restored vifs
        · exact Frame.keeps_pure _
      have whole : (Frame.stable World.Dated).Keeps
          (if (pools.lastUpdate.getD poolKey ∅).items ≠ [] ∧
              now - options.portsPoolUpdateFrequency <
                (pools.lastUpdate.getD poolKey ∅).getD (some securityGroups) 0 then
            pure ()
          else
            recordUpdate poolKey (some securityGroups) now >>= fun _ =>
              fillPool driver options answers poolKey pod subnets securityGroups
                ((pools.lastUpdate.getD poolKey ∅).getD (some securityGroups) 0)) := by
        apply Frame.Keeps.ite
        · exact Frame.keeps_pure _
        · exact (recordUpdate_keepsDated poolKey _ present).bind fun _ => fills
      exact whole world dated

theorem populatePool_keepsDated (driver : Driver) (options : Options) (answers : Answers)
    {now : Int} (present : 0 ≤ now) (poolKey : PoolKey) (pod : Pod)
    (subnets : Dict String Network) (securityGroups : List String) :
    (Frame.stable World.Dated).Keeps
      (populatePool driver options answers now poolKey pod subnets securityGroups) := by
  apply Frame.keeps_get.bind
  intro world
  apply Frame.Keeps.ite
  · exact populateRecovered_keepsDated driver options answers present poolKey pod subnets
      securityGroups
  · exact Frame.keeps_throw _

theorem removeGroup_keepsDated (answers : Answers) (poolKey : PoolKey) (group : SgKey) :
    (Frame.stable World.Dated).Keeps (removeGroup answers poolKey group) := by
  intro world dated
  unfold removeGroup
  cases present : world.pools with
  | none =>
      rw [exec_getPools_bind_of_none present]
      exact dated
  | some pools =>
      rw [exec_bind_of_ok (exec_getPools present)]
      cases (pools.availablePortsPools.getD poolKey ∅).get? group with
      | none => exact dated
      | some ports =>
          have clears : (Frame.stable World.Dated).Keeps
              (do
                ports.forM (clearPort answers poolKey)
                recordUpdate poolKey (some []) 0) := by
            apply Frame.Keeps.bind
            · apply Frame.Keeps.forM
              intro port _
              apply (keepsDated_of_keepsPools (updatePortGroups_keepsPools _ _ _)).bind
              intro _
              apply keepsDated_of_keepsUpdates
              intro other
              exact changePools_keepsUpdates fun _ => rfl
            · intro _
              exact recordUpdate_keepsDated poolKey _ le_rfl
          apply clears
          intro other item listed
          apply dated other item
          rw [World.updatesOf_of_pools present]
          exact listed

theorem removeSgFromPools_keepsDated (answers : Answers) (sgId netId : String) :
    (Frame.stable World.Dated).Keeps (removeSgFromPools answers sgId netId) := by
  apply (getPools_keeps _).bind
  intro pools
  apply Frame.Keeps.forM
  intro pool _
  apply Frame.Keeps.ite
  · apply Frame.Keeps.forM
    intro group _
    unfold removeSgFromGroup
    cases group with
    | none => exact Frame.keeps_throw _
    | some groups =>
        exact (removeGroup_keepsDated answers pool.1 (some groups)).ite (Frame.keeps_pure _)
  · exact Frame.keeps_pure _

/-! ### The methods of the nested driver -/

namespace NestedVifPool

theorem unfilePort_keepsUpdates {poolKey : PoolKey} (other : PoolKey) (group : SgKey)
    (port : String) : (updatesFrame poolKey).Keeps (unfilePort other group port) := by
  intro world
  unfold unfilePort
  cases present : world.pools with
  | none =>
      rw [exec_getPools_bind_of_none present]
      rfl
  | some pools =>
      rw [exec_bind_of_ok (exec_getPools present)]
      split
      · rfl
      · split
        · rfl
        · split
          · change (world.withPools _).updatesOf poolKey = world.updatesOf poolKey
            rw [World.updatesOf_of_pools rfl, World.updatesOf_of_pools present]
            rfl
          · rfl

theorem freeSubport_keepsUpdates {poolKey : PoolKey} (answers : Answers)
    (available : Dict String NeutronPort) (hostAddr : String) (subport : String × Nat) :
    (updatesFrame poolKey).Keeps (freeSubport answers available hostAddr subport) := by
  unfold freeSubport
  split
  · exact Frame.keeps_pure _
  · apply Frame.Keeps.tryCatch
    · apply (callNeutron_keeps _ _ _).bind
      intro _
      apply (keepsUpdates_of_keepsPools (deletePort_keepsPools answers subport.1)).bind
      intro _
      apply (deleteExistingVif_keepsUpdates subport.1).bind
      intro _
      exact unfilePort_keepsUpdates _ _ subport.1
    · intro exception
      exact (Frame.keeps_pure _).ite (Frame.keeps_throw _)

theorem freePool_keepsUpdates {poolKey : PoolKey} (options : Options) (answers : Answers)
    (trunkIps : List String) :
    (updatesFrame poolKey).Keeps (freePool options answers trunkIps) := by
  apply Frame.keeps_get.bind
  intro world
  apply Frame.Keeps.bind
  · apply Frame.Keeps.forM
    intro port _
    exact keepsUpdates_of_keepsPools (tryDeletePort_keepsPools answers port)
  · intro _
    apply Frame.Keeps.forM
    intro parent _
    apply Frame.Keeps.forM
    intro subport _
    exact freeSubport_keepsUpdates answers _ parent.ip subport

theorem dropPort_keepsUpdates {poolKey : PoolKey} (answers : Answers) (port : String) :
    (updatesFrame poolKey).Keeps (dropPort answers port) := by
  apply Frame.Keeps.bind
  · apply (deleteExistingVif_keepsUpdates port).tryCatch
    intro exception
    exact (Frame.keeps_pure _).ite (Frame.keeps_throw _)
  · intro _
    exact keepsUpdates_of_keepsPools (deletePort_keepsPools answers port)

theorem deleteNetworkPools_keepsUpdates {poolKey : PoolKey} (options : Options)
    (answers : Answers) (netId : String) (detaches : List String → Bool) :
    (updatesFrame poolKey).Keeps (deleteNetworkPools options answers netId detaches) := by
  apply Frame.keeps_get.bind
  intro world
  apply Frame.Keeps.ite
  · apply (triggerReturnToPool_keepsUpdates .nested options answers).bind
    intro _
    apply (getPools_keeps _).bind
    intro pools
    apply Frame.Keeps.forM
    intro pool _
    unfold dropPool
    apply Frame.Keeps.ite
    · apply (keepsUpdates_of_keepsPools (getTrunkId_keepsPools answers pool.1)).bind
      intro _
      apply Frame.Keeps.ite
      · apply Frame.Keeps.bind
        · apply Frame.Keeps.forM
          intro port _
          exact dropPort_keepsUpdates answers port
        · intro _
          exact changePools_keepsUpdates fun _ => rfl
      · exact Frame.keeps_pure _
    · exact Frame.keeps_pure _
  · exact Frame.keeps_throw _

theorem requestVifsAt_keepsPools (options : Options) (answers : Answers)
    (trunkIp projectId : String) (subnets : Dict String Network)
    (securityGroups : List String) (numPorts : NumPorts) :
    poolsFrame.Keeps
      (requestVifsAt options answers trunkIp projectId subnets securityGroups numPorts) := by
  cases numPorts with
  | int count =>
      rw [requestVifsAt_int]
      exact requestVifs_keepsPools .nested options answers (podAt trunkIp) projectId subnets
        securityGroups count.toNat
  | float double =>
      intro world
      rcases @exec_requestVifsAt_float options answers trunkIp projectId subnets securityGroups
        double world with ⟨exception, raised⟩
      rw [raised]
      rfl

theorem forcePopulatePool_keepsUpdates {poolKey : PoolKey} (options : Options)
    (answers : Answers) (trunkIp projectId : String) (subnets : Dict String Network)
    (securityGroups : List String) (numPorts : Option NumPorts) :
    (updatesFrame poolKey).Keeps (forcePopulatePool options answers trunkIp projectId subnets
      securityGroups numPorts) := by
  apply (keepsUpdates_of_keepsPools
    (requestVifsAt_keepsPools options answers trunkIp projectId subnets securityGroups _)).bind
  intro vifs
  apply Frame.Keeps.forM
  intro vif _
  exact changePools_keepsUpdates fun _ => rfl

theorem populatePool_keepsUpdates {poolKey : PoolKey} (options : Options)
    (answers : Answers) (trunkIp projectId : String) (subnets : Dict String Network)
    (securityGroups : List String) :
    (updatesFrame poolKey).Keeps (populatePool options answers trunkIp projectId subnets
      securityGroups) := by
  apply Frame.keeps_get.bind
  intro world
  apply Frame.Keeps.ite
  · apply (getPools_keeps _).bind
    intro pools
    exact (forcePopulatePool_keepsUpdates options answers trunkIp projectId subnets
      securityGroups _).ite (Frame.keeps_pure _)
  · exact Frame.keeps_throw _

end NestedVifPool

/-! ## Runs -/

section

variable {driver : Driver} {options : Options}

/-- The clock is never negative. -/
def Timely (_ : State) : Action → Prop
  | .populatePool _ now _ _ _ _ => 0 ≤ now
  | _ => True

instance (state : State) (action : Action) : Decidable (Timely state action) :=
  match action with
  | .populatePool _ now _ _ _ _ => inferInstanceAs (Decidable (0 ≤ now))
  | .requestVif .. | .releaseVif .. | .triggerReturnToPool .. | .restart | .syncPools
  | .recoverPools .. | .removeSgFromPools .. | .updateVifSgs .. | .changePort .. =>
      .isTrue trivial

theorem dated_kept : PreservedBy (step driver options) Timely fun state => state.world.Dated := by
  intro state action next timely dated taken
  cases action with
  | populatePool answers now poolKey pod subnets securityGroups =>
      change (if state.givesOut answers.newPortIds then _ else none) = some next at taken
      split at taken
      · cases taken
        exact populatePool_keepsDated driver options answers timely poolKey pod subnets
          securityGroups state.world dated
      · cases taken
  | requestVif answers pod projectId subnets securityGroups =>
      cases taken
      exact keepsDated_of_keepsUpdates (fun _ => requestVif_keepsUpdates driver options answers
        pod projectId subnets securityGroups) state.world dated
  | releaseVif answers pod vif projectId =>
      cases taken
      exact keepsDated_of_keepsUpdates (fun _ => releaseVif_keepsUpdates driver answers pod vif
        projectId) state.world dated
  | triggerReturnToPool answers =>
      cases taken
      exact keepsDated_of_keepsUpdates (fun _ => triggerReturnToPool_keepsUpdates driver options
        answers) state.world dated
  | restart =>
      cases taken
      rintro poolKey item ⟨⟩
  | syncPools =>
      cases taken
      rintro poolKey item ⟨⟩
  | recoverPools answers =>
      cases taken
      exact keepsDated_of_keepsUpdates (fun _ => recoverPools_keepsUpdates driver options answers)
        state.world dated
  | removeSgFromPools answers sgId netId =>
      cases taken
      exact removeSgFromPools_keepsDated answers sgId netId state.world dated
  | updateVifSgs answers pod securityGroups =>
      cases taken
      exact keepsDated_of_keepsUpdates (fun _ => updateVifSgs_keepsUpdates answers pod
        securityGroups) state.world dated
  | changePort port record =>
      cases taken
      exact dated

/-- The methods of the nested driver read no clock. -/
def NestedVifPool.Timely (state : State) : NestedVifPool.NestedAction → Prop
  | .shared action => Pool.Timely state action
  | _ => True

theorem NestedVifPool.dated_kept :
    PreservedBy (NestedVifPool.nestedStep options) NestedVifPool.Timely
      fun state => state.world.Dated := by
  intro state action next timely dated taken
  cases action with
  | shared action => exact Pool.dated_kept timely dated taken
  | freePool answers trunkIps =>
      cases taken
      exact keepsDated_of_keepsUpdates (fun _ => freePool_keepsUpdates options answers trunkIps)
        state.world dated
  | deleteNetworkPools answers netId detaches =>
      cases taken
      exact keepsDated_of_keepsUpdates (fun _ => deleteNetworkPools_keepsUpdates options answers
        netId detaches) state.world dated
  | forcePopulatePool answers trunkIp projectId subnets securityGroups numPorts =>
      change (if state.givesOut answers.newPortIds then _ else none) = some next at taken
      split at taken
      · cases taken
        exact keepsDated_of_keepsUpdates (fun _ => forcePopulatePool_keepsUpdates options answers
          trunkIp projectId subnets securityGroups numPorts) state.world dated
      · cases taken
  | populatePool answers trunkIp projectId subnets securityGroups =>
      change (if state.givesOut answers.newPortIds then _ else none) = some next at taken
      split at taken
      · cases taken
        exact keepsDated_of_keepsUpdates (fun _ => populatePool_keepsUpdates options answers
          trunkIp projectId subnets securityGroups) state.world dated
      · cases taken
  | losePort port =>
      cases taken
      exact dated

/-- What a run of a driver reaches from its start, whatever ports Neutron has. -/
inductive Reached (options : Options) : Driver → State → Prop
  | neutron {neutron : Dict String NeutronPort} {actions : List Action} {state : State}
      (run : GuardedRun (step .neutron options) Timely (initial neutron) actions state) :
      Reached options .neutron state
  | nested {neutron : Dict String NeutronPort} {actions : List NestedVifPool.NestedAction}
      {state : State}
      (run : GuardedRun (NestedVifPool.nestedStep options) NestedVifPool.Timely (initial neutron)
        actions state) :
      Reached options .nested state

theorem Reached.dated {state : State} (reached : Reached options driver state) :
    state.world.Dated := by
  have initially (neutron : Dict String NeutronPort) : (initial neutron).world.Dated := by
    rintro poolKey item ⟨⟩
  cases reached with
  | neutron run => exact run.invariant dated_kept (initially _)
  | nested run => exact run.invariant NestedVifPool.dated_kept (initially _)

end

/-! ## Requests -/

theorem selectPort_empty (poolUpdates : Dict SgKey Int) (group : SgKey) :
    selectPort ∅ poolUpdates group = none := by
  have nothing (other : SgKey) : popPort ∅ other = none := rfl
  unfold selectPort
  rw [nothing]
  cases reusedGroup ∅ poolUpdates with
  | none => rfl
  | some source => rfl

theorem World.selection_eq (world : World) (poolKey : PoolKey) (group : SgKey) :
    world.selection poolKey group =
      selectPort (world.poolPorts poolKey) (world.updatesOf poolKey) group := by
  unfold World.selection World.poolPorts World.updatesOf
  cases world.pools with
  | none => exact (selectPort_empty _ group).symm
  | some pools =>
      change (pools.availablePortsPools.get? poolKey >>= _) =
        selectPort (pools.availablePortsPools.getD poolKey ∅) _ group
      cases found : pools.availablePortsPools.get? poolKey with
      | none =>
          rw [Dict.getD_of_get?_eq_none ∅ found]
          exact (selectPort_empty _ group).symm
      | some poolPorts =>
          rw [Dict.getD_of_get?_eq_some ∅ found]
          rfl

/-- A request that says that nothing is ready finds no port in its pool, and where there is one
a request returns the VIF of a port from the list that it should be served from. -/
structure TakesPreferred (driver : Driver) (options : Options) (answers : Answers)
    (poolKey : PoolKey) (pod : Pod) (subnets : Dict String Network)
    (securityGroups : List String) (world : World) : Prop where
  empty :
    (exec (getPortFromPool driver options answers poolKey pod subnets securityGroups) world).1 =
        .error .resourceNotReady →
      ∀ group, (world.poolPorts poolKey).getD group [] = []
  taken : (∃ group, (world.poolPorts poolKey).getD group [] ≠ []) →
    ∃ vif left after source,
      exec (getPortFromPool driver options answers poolKey pod subnets securityGroups) world =
          (.ok vif, after) ∧
        Preferred (world.poolPorts poolKey) (world.updatesOf poolKey) (some securityGroups)
          source ∧
        popPort (world.poolPorts poolKey) source = some (vif.id, left) ∧
        after.poolPorts poolKey = left

section

variable {driver : Driver} {options : Options} {answers : Answers} {poolKey : PoolKey}
  {pod : Pod} {subnets : Dict String Network} {securityGroups : List String} {world : World}

theorem filled_of_selection {port : String} {left : PoolPorts} {reused : Bool} {group : SgKey}
    (selected : world.selection poolKey group = some (port, left, reused)) :
    ∃ source, (world.poolPorts poolKey).getD source [] ≠ [] := by
  rw [World.selection_eq] at selected
  rcases exists_source_of_selectPort selected with ⟨source, popped, _⟩
  refine ⟨source, ?_⟩
  intro empty
  rw [popPort_eq_none_iff.mpr empty] at popped
  cases popped

/-- Where a request takes a port and Neutron serves it, the VIF of that port comes back. -/
theorem exec_getPortFromPool_of_selection (driver : Driver) {port : String} {left : PoolPorts}
    {reused : Bool}
    (selected : world.selection poolKey (some securityGroups) = some (port, left, reused))
    (serves : world.Serves options answers port reused) (known : world.Knows port) (pod : Pod)
    (subnets : Dict String Network) :
    ∃ vif after,
      exec (getPortFromPool driver options answers poolKey pod subnets securityGroups) world =
          (.ok vif, after) ∧ vif.id = port ∧ after.poolPorts poolKey = left := by
  rcases exec_getPortFromPool_of_serves driver selected serves pod subnets with
    ⟨pools, after, present, taken, returns, _⟩
  rcases Dict.mem_iff_exists_get?.mp ((World.knows_of_pools present).mp known) with ⟨vif, found⟩
  refine ⟨vif, after, returns vif found, (pools.existingVifs.keyed port vif found), ?_⟩
  rw [World.poolPorts, taken]
  exact Dict.getD_of_get?_eq_some ∅ (Dict.get?_set_self _ _ _)

/-- Nothing else makes it return. -/
theorem served_of_exec_getPortFromPool {vif : Vif} {after : World}
    (ran : exec (getPortFromPool driver options answers poolKey pod subnets securityGroups)
      world = (.ok vif, after)) :
    ∃ port left reused,
      world.selection poolKey (some securityGroups) = some (port, left, reused) ∧
        world.Serves options answers port reused ∧ world.Knows port ∧ vif.id = port ∧
        after.poolPorts poolKey = left := by
  cases selected : world.selection poolKey (some securityGroups) with
  | none =>
      rw [exec_getPortFromPool_of_none selected] at ran
      cases ran
  | some taken =>
      rcases taken with ⟨port, left, reused⟩
      by_cases serves : world.Serves options answers port reused
      · rcases exec_getPortFromPool_of_serves driver selected serves pod subnets with
          ⟨pools, ended, present, taken, returns, raises⟩
        cases found : pools.existingVifs.dict.get? port with
        | none =>
            rw [raises found] at ran
            cases ran
        | some known =>
            have knows : world.Knows port :=
              ⟨pools, present, Dict.mem_iff_exists_get?.mpr ⟨known, found⟩⟩
            rcases exec_getPortFromPool_of_selection driver selected serves knows pod
              subnets with ⟨given, final, ranToo, same, rest⟩
            rw [ran] at ranToo
            cases ranToo
            exact ⟨port, left, reused, rfl, serves, knows, same, rest⟩
      · rcases exec_getPortFromPool_of_refused driver selected serves pod subnets with
          ⟨pools, exception, ended, _, _, raised, _⟩
        rw [raised] at ran
        cases ran

/-- In every state of a run, a request is served from the list that it should be served from
exactly where the dates tell the lists apart and the port that is taken can be handed out: it has
a VIF, and Neutron carries out the updates of the port. -/
theorem get_port_from_pool_iff {state : State} (reached : Reached options driver state)
    (answers : Answers) (poolKey : PoolKey) (pod : Pod) (subnets : Dict String Network)
    (securityGroups : List String) :
    TakesPreferred driver options answers poolKey pod subnets securityGroups state.world ↔
      Dates (state.world.poolPorts poolKey) (state.world.updatesOf poolKey)
          (some securityGroups) ∧
        ∀ port left reused,
          state.world.selection poolKey (some securityGroups) = some (port, left, reused) →
            state.world.Serves options answers port reused ∧ state.world.Knows port := by
  have dated := reached.dated poolKey
  constructor
  · intro takes
    constructor
    · by_contra undecided
      rcases not_preferred_of_selectPort dated undecided with ⟨filled, others⟩
      rcases takes.taken filled with ⟨vif, left, after, source, ran, preferred, popped, rest⟩
      rcases served_of_exec_getPortFromPool ran with
        ⟨port, remaining, reused, selected, _, _, same, restToo⟩
      rw [World.selection_eq] at selected
      apply others port remaining reused selected
      rw [← same, ← restToo, rest]
      exact ⟨source, preferred, popped⟩
    · intro port left reused selected
      rcases takes.taken (filled_of_selection selected) with ⟨vif, _, after, _, ran, _⟩
      rcases served_of_exec_getPortFromPool ran with
        ⟨taken, remaining, reusedToo, selectedToo, serves, known, _⟩
      rw [selected] at selectedToo
      cases selectedToo
      exact ⟨serves, known⟩
  · rintro ⟨dates, serves⟩
    cases selected : state.world.selection poolKey (some securityGroups) with
    | none =>
        have empty : ∀ group, (state.world.poolPorts poolKey).getD group [] = [] := by
          rw [World.selection_eq] at selected
          exact empty_of_selectPort_eq_none dated dates selected
        constructor
        · intro _
          exact empty
        · rintro ⟨group, filled⟩
          exact absurd (empty group) filled
    | some taken =>
        rcases taken with ⟨port, left, reused⟩
        rcases serves port left reused selected with ⟨served, known⟩
        rcases exec_getPortFromPool_of_selection driver selected served known pod
          subnets with ⟨vif, after, ran, same, rest⟩
        constructor
        · intro raised
          rw [ran] at raised
          cases raised
        · intro _
          rw [World.selection_eq] at selected
          rcases preferred_of_selectPort dated dates selected with ⟨source, preferred, popped⟩
          refine ⟨vif, left, after, source, ran, preferred, ?_, rest⟩
          rw [same]
          exact popped

end

/-! ## Two groups in one pool -/

/-- Pools of two ports. -/
def twoPorts : Options where
  portsPoolMin := 2
  portsPoolBatch := 1

/-- Two ports are created for one group and one is handed out; a second later a port is created
for another group. -/
def twoPopulations : List Action :=
  [.syncPools, .recoverPools {},
    .populatePool { newPortIds := ["first", "second"] } 100 ⟨"node", "project", some "network"⟩
      (scheduledPod "a") oneSubnet ["group"],
    .requestVif {} (scheduledPod "a") "project" oneSubnet ["group"],
    .populatePool { newPortIds := ["third"] } 101 ⟨"node", "project", some "network"⟩
      (scheduledPod "b") oneSubnet ["other group"]]

/-- The port that is left of the first two can be requested. -/
theorem twoPopulations_served :
    ∃ state, Reached twoPorts .neutron state ∧
      TakesPreferred .neutron twoPorts {} ⟨"node", "project", some "network"⟩
        (scheduledPod "b") oneSubnet ["group"] state.world := by
  have executed : ((runIf (step .neutron twoPorts) Timely twoPopulations (initial ∅)).map
      fun state =>
        ((state.world.poolPorts ⟨"node", "project", some "network"⟩).getD (some ["group"]) [],
          (state.world.selection ⟨"node", "project", some "network"⟩ (some ["group"])).map
            fun taken => (taken.1, taken.2.2),
          state.world.pools.bind fun pools => pools.existingVifs.dict.get? "first")) =
      some (["first"], some ("first", false), some { id := "first", network := ⟨"network"⟩ }) := by
    decide +kernel
  rcases Option.map_eq_some_iff.mp executed with ⟨state, ran, facts⟩
  simp only [Prod.mk.injEq] at facts
  rcases facts with ⟨filled, selection, known⟩
  have reached : Reached twoPorts .neutron state := .neutron (guardedRun_of_runIf ran)
  refine ⟨state, reached, (get_port_from_pool_iff reached {} _ _ _ _).mpr ⟨?_, ?_⟩⟩
  · intro empty
    rw [filled] at empty
    cases empty
  · intro port left reused selected
    rw [selected] at selection
    cases selection
    rcases Option.bind_eq_some_iff.mp known with ⟨pools, present, found⟩
    have serves : state.world.Serves twoPorts {} "first" false :=
      ⟨fun reused => absurd reused Bool.false_ne_true, fun debug => absurd debug Bool.false_ne_true⟩
    exact ⟨serves, pools, present, Dict.mem_iff_exists_get?.mpr ⟨_, found⟩⟩

/-- After the port of the other group is handed out, a request for a third group finds nothing,
while there is a port of the first group. -/
theorem get_port_from_pool_overlooks_port :
    ∃ state, Reached twoPorts .neutron state ∧
      ¬TakesPreferred .neutron twoPorts {} ⟨"node", "project", some "network"⟩
        (scheduledPod "c") oneSubnet ["third group"] state.world := by
  have executed : ((runIf (step .neutron twoPorts) Timely
      (twoPopulations ++
        [.requestVif {} (scheduledPod "b") "project" oneSubnet ["other group"]])
      (initial ∅)).map fun state =>
        ((state.world.poolPorts ⟨"node", "project", some "network"⟩).getD (some ["group"]) [],
          (exec (getPortFromPool .neutron twoPorts {} ⟨"node", "project", some "network"⟩
            (scheduledPod "c") oneSubnet ["third group"]) state.world).1)) =
      some (["first"], .error .resourceNotReady) := by
    decide +kernel
  rcases Option.map_eq_some_iff.mp executed with ⟨state, ran, facts⟩
  simp only [Prod.mk.injEq] at facts
  rcases facts with ⟨filled, raised⟩
  refine ⟨state, .neutron (guardedRun_of_runIf ran), ?_⟩
  intro takes
  have empty := takes.empty raised (some ["group"])
  rw [filled] at empty
  cases empty

end KuryrKubernetes.Pool

import KuryrKubernetes.Pool.Accounting

/-!
# Requests that fail

A request first takes a port out of its pool, and then asks Neutron to update it.  What
Neutron refuses at that point is not undone: the port is in no pool any more, and nobody
has got it.
-/

namespace KuryrKubernetes.Pool

open KuryrKubernetes.Data
open KuryrKubernetes.Effect

/-! ## Updates of a port -/

/-- Neutron carries out an update of a port: it does not refuse the call and has the port. -/
def World.Updates (world : World) (answers : Answers) (call : NeutronCall) (port : String) :
    Prop :=
  answers.fails call = false ∧ port ∈ world.neutron

instance (world : World) (answers : Answers) (call : NeutronCall) (port : String) :
    Decidable (world.Updates answers call port) :=
  inferInstanceAs (Decidable (_ ∧ _))

/-- The form that all calls of `update_port` have. -/
def updatePort (answers : Answers) (call : NeutronCall) (port : String)
    (change : NeutronPort → NeutronPort) : PoolM Unit := do
  callNeutron answers call
  let world ← get
  match world.neutron.get? port with
  | none => throw .neutronNotFound
  | some record => set { world with neutron := world.neutron.set port (change record) }

theorem updatePortGroups_eq (answers : Answers) (port : String) (groups : List String) :
    updatePortGroups answers port groups =
      updatePort answers (.updateGroups port) port fun record =>
        { record with securityGroupIds := groups } :=
  rfl

theorem updatePortName_eq (answers : Answers) (port name : String) (deviceId : Option String) :
    updatePortName answers port name deviceId =
      updatePort answers (.updateName port) port fun record =>
        { record with name := name, deviceId := deviceId.getD record.deviceId } :=
  rfl

/-- Two worlds with the same pools, and the same ports in Neutron. -/
structure World.Alike (before after : World) : Prop where
  pools : after.pools = before.pools
  neutron : ∀ port, port ∈ after.neutron ↔ port ∈ before.neutron

namespace World.Alike

theorem refl (world : World) : world.Alike world :=
  ⟨rfl, fun _ => Iff.rfl⟩

theorem trans {first second third : World} (head : first.Alike second)
    (tail : second.Alike third) : first.Alike third :=
  ⟨tail.pools.trans head.pools, fun port => (tail.neutron port).trans (head.neutron port)⟩

theorem updates_iff {before after : World} (alike : before.Alike after) (answers : Answers)
    (call : NeutronCall) (port : String) :
    after.Updates answers call port ↔ before.Updates answers call port :=
  and_congr_right fun _ => alike.neutron port

end World.Alike

/-- `_available_ports_pools.get(pool_key)`, empty where there is none. -/
def World.poolPorts (world : World) (poolKey : PoolKey) : PoolPorts :=
  world.pools.elim ∅ fun pools => pools.availablePortsPools.getD poolKey ∅

theorem World.poolPorts_of_pools {world : World} {pools : Pools}
    (present : world.pools = some pools) (poolKey : PoolKey) :
    world.poolPorts poolKey = pools.availablePortsPools.getD poolKey ∅ := by
  rw [World.poolPorts, present]
  rfl

section

variable {answers : Answers} {world : World}

theorem exec_updatePort_of_updates {call : NeutronCall} {port : String}
    (updates : world.Updates answers call port) (change : NeutronPort → NeutronPort) :
    ∃ after, exec (updatePort answers call port change) world = (.ok ⟨⟩, after) ∧
      world.Alike after := by
  rcases Dict.mem_iff_exists_get?.mp updates.2 with ⟨record, found⟩
  have served : exec (callNeutron answers call) world = (.ok ⟨⟩, world) := by
    rw [callNeutron, updates.1]
    rfl
  refine ⟨{ world with neutron := world.neutron.set port (change record) }, ?_, rfl, ?_⟩
  · rw [updatePort, exec_bind_of_ok served, exec_get_bind, found]
    rfl
  · intro other
    rw [Dict.mem_set]
    constructor
    · rintro (rfl | present)
      · exact updates.2
      · exact present
    · exact .inr

theorem exec_updatePort_of_refused {call : NeutronCall} {port : String}
    (refused : ¬world.Updates answers call port) (change : NeutronPort → NeutronPort) :
    ∃ exception, exception.isSdkException = true ∧
      exec (updatePort answers call port change) world = (.error exception, world) := by
  cases failing : answers.fails call with
  | true =>
      have raised : exec (callNeutron answers call) world = (.error .sdkException, world) := by
        rw [callNeutron, failing]
        rfl
      exact ⟨.sdkException, rfl, exec_bind_of_error raised⟩
  | false =>
      have missing : world.neutron.get? port = none := by
        rw [← Dict.not_mem_iff_get?_eq_none]
        intro present
        exact refused ⟨failing, present⟩
      have served : exec (callNeutron answers call) world = (.ok ⟨⟩, world) := by
        rw [callNeutron, failing]
        rfl
      refine ⟨.neutronNotFound, rfl, ?_⟩
      rw [updatePort, exec_bind_of_ok served, exec_get_bind, missing]
      rfl

/-! ## The port that is taken -/

/-- The port that a request takes out of a pool, with the lists that it leaves and whether
the groups of the port have to be updated. -/
def World.selection (world : World) (poolKey : PoolKey) (group : SgKey) :
    Option (String × PoolPorts × Bool) := do
  let pools ← world.pools
  let poolPorts ← pools.availablePortsPools.get? poolKey
  selectPort poolPorts (pools.lastUpdate.getD poolKey ∅) group

theorem selection_eq_some_iff {poolKey : PoolKey} {group : SgKey}
    {taken : String × PoolPorts × Bool} :
    world.selection poolKey group = some taken ↔
      ∃ pools poolPorts, world.pools = some pools ∧
        pools.availablePortsPools.get? poolKey = some poolPorts ∧
        selectPort poolPorts (pools.lastUpdate.getD poolKey ∅) group = some taken := by
  simp only [World.selection, Option.bind_eq_bind, Option.bind_eq_some_iff]
  constructor
  · rintro ⟨pools, present, poolPorts, pool, selected⟩
    exact ⟨pools, poolPorts, present, pool, selected⟩
  · rintro ⟨pools, poolPorts, present, pool, selected⟩
    exact ⟨pools, present, poolPorts, pool, selected⟩

theorem exec_takePort_of_none {poolKey : PoolKey} {group : SgKey}
    (nothing : world.selection poolKey group = none) :
    exec (takePort poolKey group) world = (.error .resourceNotReady, world) := by
  rcases takePort_cases poolKey group world with raised | taken
  · exact raised
  · rcases taken with ⟨pools, poolPorts, port, left, reused, present, pool, selected, _⟩
    rw [selection_eq_some_iff.mpr ⟨pools, poolPorts, present, pool, selected⟩] at nothing
    cases nothing

theorem exec_takePort_of_some {poolKey : PoolKey} {group : SgKey} {port : String}
    {left : PoolPorts} {reused : Bool}
    (selected : world.selection poolKey group = some (port, left, reused)) :
    ∃ pools, world.pools = some pools ∧
      exec (takePort poolKey group) world =
        (.ok (port, reused), world.withPools (pools.setPool poolKey left)) := by
  rcases selection_eq_some_iff.mp selected with ⟨pools, poolPorts, present, pool, chosen⟩
  refine ⟨pools, present, ?_⟩
  simp only [takePort, exec_get_bind, present, pool, chosen, setPools, exec_modify_bind]
  rfl

/-- Neutron carries out the updates of a port that has been taken. -/
structure World.Serves (world : World) (options : Options) (answers : Answers) (port : String)
    (reused : Bool) : Prop where
  groups : reused = true → world.Updates answers (.updateGroups port) port
  name : options.portDebug = true → world.Updates answers (.updateName port) port

theorem exec_refreshGroups_of_updates {port : String} {reused : Bool}
    (updates : reused = true → world.Updates answers (.updateGroups port) port)
    (securityGroups : List String) :
    ∃ after, exec (refreshGroups answers securityGroups port reused) world = (.ok ⟨⟩, after) ∧
      world.Alike after := by
  cases reused with
  | false => exact ⟨world, rfl, .refl world⟩
  | true =>
      rw [refreshGroups, if_pos rfl, updatePortGroups_eq]
      exact exec_updatePort_of_updates (updates rfl) _

theorem exec_refreshName_of_updates {options : Options} {port : String}
    (updates : options.portDebug = true → world.Updates answers (.updateName port) port)
    (driver : Driver) (pod : Pod) :
    ∃ after, exec (refreshName driver options answers pod port) world = (.ok ⟨⟩, after) ∧
      world.Alike after := by
  unfold refreshName
  by_cases debugging : options.portDebug = true
  · rw [if_pos debugging]
    cases driver with
    | neutron => exact exec_updatePort_of_updates (updates debugging) _
    | nested => exact exec_updatePort_of_updates (updates debugging) _
  · rw [if_neg debugging]
    exact ⟨world, rfl, .refl world⟩

theorem exec_refreshName_of_refused {options : Options} {port : String}
    (debugging : options.portDebug = true)
    (refused : ¬world.Updates answers (.updateName port) port) (driver : Driver) (pod : Pod) :
    ∃ exception, exception.isSdkException = true ∧
      exec (refreshName driver options answers pod port) world = (.error exception, world) := by
  unfold refreshName
  rw [if_pos debugging]
  cases driver with
  | neutron => exact exec_updatePort_of_refused refused _
  | nested => exact exec_updatePort_of_refused refused _

theorem exec_spawnWhenLow {pools : Pools} (present : world.pools = some pools)
    (options : Options) (population : Population) :
    ∃ after, exec (spawnWhenLow options population) world = (.ok ⟨⟩, after) ∧
      world.Alike after := by
  rw [spawnWhenLow, exec_bind_of_ok (exec_getPools present)]
  split
  · exact ⟨_, rfl, rfl, fun _ => Iff.rfl⟩
  · exact ⟨world, rfl, .refl world⟩

variable {driver : Driver} {options : Options} {population : Population} {port : String}
  {reused : Bool}

/-- Where Neutron carries out the updates, only the VIF of the port may be missing. -/
theorem exec_preparePort_of_serves {pools : Pools} (present : world.pools = some pools)
    (serves : world.Serves options answers port reused) :
    ∃ after, world.Alike after ∧
      (∀ vif, pools.existingVifs.dict.get? port = some vif →
        exec (preparePort driver options answers population port reused) world =
          (.ok vif, after)) ∧
      (pools.existingVifs.dict.get? port = none →
        exec (preparePort driver options answers population port reused) world =
          (.error .keyError, after)) := by
  rcases exec_refreshGroups_of_updates serves.groups population.securityGroups with
    ⟨grouped, regrouped, first⟩
  have renames : options.portDebug = true → grouped.Updates answers (.updateName port) port :=
    fun debugging => (first.updates_iff _ _ _).mpr (serves.name debugging)
  rcases exec_refreshName_of_updates renames driver population.pod with
    ⟨named, renamed, second⟩
  have there : named.pools = some pools := by
    rw [second.pools, first.pools, present]
  rcases exec_spawnWhenLow there options population with ⟨after, spawned, third⟩
  have presentAfter : after.pools = some pools := by
    rw [third.pools, there]
  refine ⟨after, (first.trans second).trans third, ?_, ?_⟩
  · intro vif known
    rw [preparePort, exec_bind_of_ok regrouped, exec_bind_of_ok renamed, exec_bind_of_ok spawned,
      existingVif, exec_bind_of_ok (exec_getPools presentAfter), known]
    rfl
  · intro unknown
    rw [preparePort, exec_bind_of_ok regrouped, exec_bind_of_ok renamed, exec_bind_of_ok spawned,
      existingVif, exec_bind_of_ok (exec_getPools presentAfter), unknown]
    rfl

/-- Where Neutron does not, the exception is one of the SDK. -/
theorem exec_preparePort_of_refused
    (refused : ¬world.Serves options answers port reused) :
    ∃ exception after, exception.isSdkException = true ∧
      exec (preparePort driver options answers population port reused) world =
        (.error exception, after) := by
  by_cases updates : reused = true → world.Updates answers (.updateGroups port) port
  · rcases exec_refreshGroups_of_updates updates population.securityGroups with
      ⟨grouped, regrouped, alike⟩
    have renameRefused : ¬(options.portDebug = true →
        world.Updates answers (.updateName port) port) :=
      fun renames => refused ⟨updates, renames⟩
    rcases Classical.not_imp.mp renameRefused with ⟨debugging, refusedName⟩
    have refusedThen : ¬grouped.Updates answers (.updateName port) port :=
      mt (alike.updates_iff _ _ _).mp refusedName
    rcases exec_refreshName_of_refused debugging refusedThen driver population.pod with
      ⟨exception, sdk, raised⟩
    refine ⟨exception, grouped, sdk, ?_⟩
    rw [preparePort, exec_bind_of_ok regrouped]
    exact exec_bind_of_error raised
  · rcases Classical.not_imp.mp updates with ⟨again, refusedGroups⟩
    rcases exec_updatePort_of_refused refusedGroups fun record =>
        { record with securityGroupIds := population.securityGroups } with
      ⟨exception, sdk, raised⟩
    refine ⟨exception, world, sdk, ?_⟩
    rw [preparePort]
    apply exec_bind_of_error
    rw [refreshGroups, if_pos again]
    exact raised

/-! ## Failing requests -/

theorem exec_getPortFromPool_of_none {poolKey : PoolKey} {securityGroups : List String}
    (nothing : world.selection poolKey (some securityGroups) = none) (pod : Pod)
    (subnets : Dict String Network) :
    exec (getPortFromPool driver options answers poolKey pod subnets securityGroups) world =
      (.error .resourceNotReady, world) :=
  exec_bind_of_error (exec_takePort_of_none nothing)

theorem exec_getPortFromPool_of_serves (driver : Driver) {poolKey : PoolKey}
    {securityGroups : List String} {left : PoolPorts}
    (selected : world.selection poolKey (some securityGroups) = some (port, left, reused))
    (serves : world.Serves options answers port reused) (pod : Pod)
    (subnets : Dict String Network) :
    ∃ pools after, world.pools = some pools ∧ after.pools = some (pools.setPool poolKey left) ∧
      (∀ vif, pools.existingVifs.dict.get? port = some vif →
        exec (getPortFromPool driver options answers poolKey pod subnets securityGroups) world =
          (.ok vif, after)) ∧
      (pools.existingVifs.dict.get? port = none →
        exec (getPortFromPool driver options answers poolKey pod subnets securityGroups) world =
          (.error .keyError, after)) := by
  rcases exec_takePort_of_some selected with ⟨pools, present, taken⟩
  have serves : (world.withPools (pools.setPool poolKey left)).Serves options answers port
      reused := ⟨serves.groups, serves.name⟩
  rcases exec_preparePort_of_serves (World.pools_withPools world (pools.setPool poolKey left))
    serves with ⟨after, alike, known, unknown⟩
  refine ⟨pools, after, present, alike.pools, ?_, ?_⟩
  · intro vif found
    rw [getPortFromPool, exec_bind_of_ok taken]
    exact known vif found
  · intro missing
    rw [getPortFromPool, exec_bind_of_ok taken]
    exact unknown missing

theorem exec_getPortFromPool_of_refused (driver : Driver) {poolKey : PoolKey}
    {securityGroups : List String} {left : PoolPorts}
    (selected : world.selection poolKey (some securityGroups) = some (port, left, reused))
    (refused : ¬world.Serves options answers port reused) (pod : Pod)
    (subnets : Dict String Network) :
    ∃ pools exception after, world.pools = some pools ∧ exception.isSdkException = true ∧
      exec (getPortFromPool driver options answers poolKey pod subnets securityGroups) world =
        (.error exception, after) ∧ after.pools = some (pools.setPool poolKey left) := by
  rcases exec_takePort_of_some selected with ⟨pools, present, taken⟩
  have refusedThen : ¬(world.withPools (pools.setPool poolKey left)).Serves options answers port
      reused := fun serves => refused ⟨serves.groups, serves.name⟩
  rcases exec_preparePort_of_refused refusedThen with ⟨exception, after, sdk, raised⟩
  have kept := preparePort_keepsPools driver options answers ⟨poolKey, pod, subnets, securityGroups⟩
    port reused (world.withPools (pools.setPool poolKey left))
  rw [raised] at kept
  refine ⟨pools, exception, after, present, sdk, ?_, kept⟩
  rw [getPortFromPool, exec_bind_of_ok taken]
  exact raised

variable {pod : Pod} {projectId hostAddr : String} {subnets : Dict String Network}
  {securityGroups : List String} {middle : World}

theorem exec_requestVif_of_ok (addressed : getHostAddr driver pod = some hostAddr) {vif : Vif}
    (ran : exec (getPortFromPool driver options answers
      (getPoolKey hostAddr projectId none subnets) pod subnets
      (securityGroups.insertionSort (· ≤ ·))) world = (.ok vif, middle)) :
    exec (requestVif driver options answers pod projectId subnets securityGroups) world =
      (.ok (some vif), middle) := by
  rw [requestVif, addressed, exec_tryCatch, exec_bind_of_ok ran]
  rfl

theorem exec_requestVif_of_error (addressed : getHostAddr driver pod = some hostAddr)
    {exception : PyException}
    (ran : exec (getPortFromPool driver options answers
      (getPoolKey hostAddr projectId none subnets) pod subnets
      (securityGroups.insertionSort (· ≤ ·))) world = (.error exception, middle)) :
    ∃ after,
      exec (requestVif driver options answers pod projectId subnets securityGroups) world =
        (.error exception, after) ∧ after.pools = middle.pools := by
  have failed := requestFailed_raises ⟨getPoolKey hostAddr projectId none subnets, pod, subnets,
    securityGroups.insertionSort (· ≤ ·)⟩ exception middle
  have kept := requestFailed_keepsPools ⟨getPoolKey hostAddr projectId none subnets, pod, subnets,
    securityGroups.insertionSort (· ≤ ·)⟩ exception middle
  refine ⟨_, ?_, kept⟩
  rw [requestVif, addressed, exec_tryCatch, exec_bind_of_error ran]
  exact Prod.ext failed rfl

/-- The available ports of all pools. -/
def World.availablePorts (world : World) : Option (Dict PoolKey PoolPorts) :=
  world.pools.map Pools.availablePortsPools

/-- A request that raises because nothing is ready, or because of Neutron, leaves the available
ports as they are. -/
def RestoresPools (driver : Driver) (options : Options) (answers : Answers) (pod : Pod)
    (projectId : String) (subnets : Dict String Network) (securityGroups : List String)
    (world : World) : Prop :=
  ∀ exception after,
    exec (requestVif driver options answers pod projectId subnets securityGroups) world =
        (.error exception, after) →
      exception = .resourceNotReady ∨ exception.isSdkException = true →
        after.availablePorts = world.availablePorts

/-- Without the port that is taken the pools are not what they were. -/
theorem availablePorts_ne_of_taken {poolKey : PoolKey} {group : SgKey} {taken : String}
    {left : PoolPorts} {reused : Bool} {pools : Pools} (present : world.pools = some pools)
    (selected : world.selection poolKey group = some (taken, left, reused)) :
    (world.withPools (pools.setPool poolKey left)).availablePorts ≠ world.availablePorts := by
  rcases selection_eq_some_iff.mp selected with ⟨others, poolPorts, known, pool, chosen⟩
  rw [present] at known
  cases known
  have fewer := available_takePort pool chosen taken
  rw [if_pos rfl] at fewer
  intro same
  rw [World.availablePorts, World.availablePorts, present] at same
  have equal : (pools.setPool poolKey left).availablePortsPools = pools.availablePortsPools :=
    Option.some.inj same
  have counted : (pools.setPool poolKey left).available taken = pools.available taken := by
    rw [Pools.available, Pools.available, equal]
  omega

/-- A request leaves the available ports as they are whenever it raises, exactly where Neutron
carries out the updates of the port that it takes. -/
theorem request_vif_restores_iff (driver : Driver) (options : Options) (answers : Answers)
    (pod : Pod) (projectId : String) (subnets : Dict String Network)
    (securityGroups : List String) (world : World) :
    RestoresPools driver options answers pod projectId subnets securityGroups world ↔
      ∀ hostAddr ∈ getHostAddr driver pod, ∀ port left reused,
        world.selection (getPoolKey hostAddr projectId none subnets)
            (sortedGroups securityGroups) = some (port, left, reused) →
          world.Serves options answers port reused := by
  cases addressed : getHostAddr driver pod with
  | none =>
      constructor
      · rintro _ hostAddr ⟨⟩
      · intro _ exception after ran
        rw [requestVif, addressed] at ran
        cases ran
  | some hostAddr =>
      have groups : sortedGroups securityGroups = some (securityGroups.insertionSort (· ≤ ·)) :=
        rfl
      rw [groups]
      constructor
      · intro restores
        rintro _ ⟨⟩ port left reused selected
        by_contra refused
        rcases exec_getPortFromPool_of_refused driver selected refused pod subnets with
          ⟨pools, exception, middle, present, sdk, raised, removed⟩
        rcases exec_requestVif_of_error addressed raised with ⟨after, ran, kept⟩
        have restored := restores exception after ran (.inr sdk)
        apply availablePorts_ne_of_taken present selected
        rw [← restored, World.availablePorts, World.availablePorts, kept, removed]
        rfl
      · intro serves exception after ran reason
        cases selected : world.selection (getPoolKey hostAddr projectId none subnets)
            (some (securityGroups.insertionSort (· ≤ ·))) with
        | none =>
            rcases exec_requestVif_of_error addressed
              (exec_getPortFromPool_of_none selected pod subnets) with ⟨ended, failed, kept⟩
            rw [failed] at ran
            cases ran
            rw [World.availablePorts, World.availablePorts, kept]
        | some taken =>
            rcases taken with ⟨port, left, reused⟩
            have served := serves hostAddr rfl port left reused selected
            rcases exec_getPortFromPool_of_serves driver selected served pod subnets with
              ⟨pools, middle, present, _, known, unknown⟩
            cases found : pools.existingVifs.dict.get? port with
            | some vif =>
                rw [exec_requestVif_of_ok addressed (known vif found)] at ran
                cases ran
            | none =>
                rcases exec_requestVif_of_error addressed (unknown found) with ⟨ended, failed, _⟩
                rw [failed] at ran
                cases ran
                rcases reason with same | same
                · cases same
                · cases same

end

/-! ## A port that nobody gets -/

namespace LostPort

def groupKey : SgKey :=
  some ["group"]

def poolKey : PoolKey :=
  ⟨"host", "project", some "network"⟩

def subnets : Dict String Network :=
  (∅ : Dict String Network).set "subnet" ⟨"network"⟩

def pod : Pod :=
  { name := "pod", namespaceName := "default", uid := "pod", nodeName := some "host" }

/-- A pool with one port, which has the group. -/
def world : World :=
  { pools := some
      { availablePortsPools := (∅ : Dict PoolKey PoolPorts).set poolKey
          ((∅ : PoolPorts).set groupKey ["port"])
        existingVifs := VifTable.empty.put { id := "port", network := ⟨"network"⟩ } }
    recoveredPools := true
    neutron := (∅ : Dict String NeutronPort).set "port"
      { projectId := "project", networkId := "network", subnetId := "subnet"
        securityGroupIds := ["group"] } }

/-- Neutron refuses to change the groups of the port. -/
def answers : Answers :=
  { fails := fun call => call = .updateGroups "port" }

end LostPort

/-- The port is taken for other groups, which Neutron refuses to give it. -/
theorem request_vif_loses_port :
    ¬RestoresPools .neutron {} LostPort.answers LostPort.pod "project" LostPort.subnets ["other"]
      LostPort.world := by
  intro restores
  have raised : (exec (requestVif .neutron {} LostPort.answers LostPort.pod "project"
      LostPort.subnets ["other"]) LostPort.world).1 = .error .sdkException := by
    decide
  have restored := restores .sdkException _ (Prod.ext raised rfl) (.inr rfl)
  exact absurd restored (by decide)

end KuryrKubernetes.Pool

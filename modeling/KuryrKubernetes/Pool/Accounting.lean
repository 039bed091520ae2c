import KuryrKubernetes.Pool.Driver

/-!
# Where the ports are

For every port the pools have two counters: how often it is listed as available,
and whether it waits to be recycled.  This file gives, operation by operation,
what happens to the counters; later files never unfold an operation.
-/

namespace KuryrKubernetes.Pool

open KuryrKubernetes.Data
open KuryrKubernetes.Effect

/-! ## Counters -/

/-- How often a port occurs in the lists of one pool. -/
def PoolPorts.occurrences (poolPorts : PoolPorts) (port : String) : Nat :=
  poolPorts.total fun _ ports => ports.count port

/-- How often a port occurs in all lists of `_available_ports_pools`. -/
def Pools.available (pools : Pools) (port : String) : Nat :=
  pools.availablePortsPools.total fun _ poolPorts => PoolPorts.occurrences poolPorts port

/-- One when a port waits in `_recyclable_ports`, else zero. -/
def Pools.recycling (pools : Pools) (port : String) : Nat :=
  if port ∈ pools.recyclablePorts then 1 else 0

/-- `Pools.available` of the driver, zero before `sync_pools`. -/
def World.available (world : World) (port : String) : Nat :=
  world.pools.elim 0 (Pools.available · port)

/-- `Pools.recycling` of the driver, zero before `sync_pools`. -/
def World.recycling (world : World) (port : String) : Nat :=
  world.pools.elim 0 (Pools.recycling · port)

theorem World.available_of_pools {world : World} {pools : Pools}
    (present : world.pools = some pools) (port : String) :
    world.available port = pools.available port := by
  simp [World.available, present]

theorem World.recycling_of_pools {world : World} {pools : Pools}
    (present : world.pools = some pools) (port : String) :
    world.recycling port = pools.recycling port := by
  simp [World.recycling, present]

theorem World.counters_of_pools_eq {before after : World}
    (same : after.pools = before.pools) (port : String) :
    after.available port = before.available port ∧
      after.recycling port = before.recycling port := by
  simp [World.available, World.recycling, same]

/-- A port is available exactly when some list of some pool holds it. -/
theorem Pools.available_pos_iff {pools : Pools} {port : String} :
    0 < pools.available port ↔
      ∃ poolKey poolPorts group ports,
        pools.availablePortsPools.get? poolKey = some poolPorts ∧
          poolPorts.get? group = some ports ∧ port ∈ ports := by
  constructor
  · intro positive
    by_contra none
    have zero : pools.available port = 0 := by
      refine (Dict.total_eq_zero_iff _ _).mpr fun item member => ?_
      refine (Dict.total_eq_zero_iff _ _).mpr fun list listed => ?_
      refine List.count_eq_zero.mpr fun contained => none ?_
      exact ⟨item.1, item.2, list.1, list.2, Dict.mem_items_iff.mp member,
        Dict.mem_items_iff.mp listed, contained⟩
    omega
  · rintro ⟨poolKey, poolPorts, group, ports, pool, list, member⟩
    have inList : 0 < ports.count port := List.count_pos_iff.mpr member
    have inPool : ports.count port ≤ PoolPorts.occurrences poolPorts port :=
      Dict.weight_le_total (fun _ ports => ports.count port) (Dict.mem_items_iff.mpr list)
    have inPools : PoolPorts.occurrences poolPorts port ≤ pools.available port :=
      Dict.weight_le_total (fun _ poolPorts => PoolPorts.occurrences poolPorts port)
        (Dict.mem_items_iff.mpr pool)
    omega

theorem occurrences_empty (port : String) :
    PoolPorts.occurrences (∅ : PoolPorts) port = 0 :=
  rfl

theorem count_append_singleton (ports : List String) (filed port : String) :
    (ports ++ [filed]).count port = ports.count port + if port = filed then 1 else 0 := by
  rw [List.count_append, List.count_singleton]
  by_cases equal : port = filed
  · simp [equal]
  · simp [equal, Ne.symm equal]

/-! ## Filing and popping -/

/-- Filing a port adds one occurrence of it. -/
theorem available_filePort (pools : Pools) (poolKey : PoolKey) (group : SgKey)
    (filed port : String) :
    (filePort pools poolKey group filed).available port =
      pools.available port + if port = filed then 1 else 0 := by
  have inList := fun poolPorts : PoolPorts =>
    Dict.total_alter (fun _ ports => ports.count port) poolPorts group []
      (fun ports => ports ++ [filed]) rfl
  have inPools := Dict.total_alter
    (fun _ poolPorts => PoolPorts.occurrences poolPorts port) pools.availablePortsPools
    poolKey ∅ (fun poolPorts => poolPorts.alter group [] fun ports => ports ++ [filed])
    (occurrences_empty port)
  have inPool := inList (pools.availablePortsPools.getD poolKey ∅)
  simp only [count_append_singleton] at inPool
  simp only [Pools.available, filePort, PoolPorts.occurrences] at *
  omega

@[simp]
theorem recycling_filePort (pools : Pools) (poolKey : PoolKey) (group : SgKey)
    (filed port : String) :
    (filePort pools poolKey group filed).recycling port = pools.recycling port :=
  rfl

theorem available_addVif (poolKey : PoolKey) (group : SgKey) (pools : Pools) (vif : Vif)
    (port : String) :
    (addVif poolKey group pools vif).available port =
      pools.available port + if port = vif.id then 1 else 0 :=
  available_filePort _ poolKey group vif.id port

@[simp]
theorem recycling_addVif (poolKey : PoolKey) (group : SgKey) (pools : Pools) (vif : Vif)
    (port : String) :
    (addVif poolKey group pools vif).recycling port = pools.recycling port :=
  rfl

theorem count_dropLast_add {ports : List String} {last : String}
    (atEnd : ports.getLast? = some last) (port : String) :
    ports.dropLast.count port + (if port = last then 1 else 0) = ports.count port := by
  have split : ports = ports.dropLast ++ [last] :=
    (List.dropLast_append_getLast? last atEnd).symm
  rw [← count_append_singleton, ← split]

theorem popPort_eq_some {poolPorts left : PoolPorts} {group : SgKey} {popped : String}
    (pop : popPort poolPorts group = some (popped, left)) :
    ∃ ports, poolPorts.get? group = some ports ∧ ports.getLast? = some popped ∧
      left = poolPorts.set group ports.dropLast := by
  simp only [popPort, Option.bind_eq_bind, Option.bind_eq_some_iff, Option.pure_def,
    Option.some.injEq, Prod.mk.injEq] at pop
  obtain ⟨ports, list, last, atEnd, rfl, rfl⟩ := pop
  exact ⟨ports, list, atEnd, rfl⟩

theorem occurrences_popPort {poolPorts left : PoolPorts} {group : SgKey} {popped : String}
    (pop : popPort poolPorts group = some (popped, left)) (port : String) :
    PoolPorts.occurrences left port + (if port = popped then 1 else 0) =
      PoolPorts.occurrences poolPorts port := by
  obtain ⟨ports, list, atEnd, rfl⟩ := popPort_eq_some pop
  have accounted := Dict.total_set (fun _ ports => ports.count port) poolPorts group
    ports.dropLast
  rw [Dict.weightAt_of_get?_eq_some list] at accounted
  have dropped := count_dropLast_add atEnd port
  simp only [PoolPorts.occurrences] at *
  omega

/-- A selected port was popped from one list of the pool: the requested one, or
another one when it is reused. -/
theorem selectPort_eq_some {poolPorts left : PoolPorts} {updates : Dict SgKey Int}
    {group : SgKey} {popped : String} {reused : Bool}
    (selected : selectPort poolPorts updates group = some (popped, left, reused)) :
    ∃ source, popPort poolPorts source = some (popped, left) ∧
      (reused = false → source = group) := by
  unfold selectPort at selected
  cases direct : popPort poolPorts group with
  | some pair =>
      rcases pair with ⟨port, rest⟩
      simp only [direct, Option.some.injEq, Prod.mk.injEq] at selected
      obtain ⟨rfl, rfl, rfl⟩ := selected
      exact ⟨group, direct, fun _ => rfl⟩
  | none =>
      simp only [direct, Option.bind_eq_bind, Option.bind_eq_some_iff, Option.pure_def,
        Option.some.injEq, Prod.mk.injEq] at selected
      obtain ⟨source, _, ⟨port, rest⟩, pop, rfl, rfl, rfl⟩ := selected
      exact ⟨source, pop, by simp⟩

/-! ## Operations that leave the pools alone -/

/-- The dictionaries of the driver stay the same. -/
abbrev poolsFrame : Frame World :=
  Frame.same World.pools

theorem callNeutron_keeps (frame : Frame World) (answers : Answers) (call : NeutronCall) :
    frame.Keeps (callNeutron answers call) :=
  Frame.Keeps.ite (Frame.keeps_throw _) (Frame.keeps_pure _)

theorem updatePortGroups_keepsPools (answers : Answers) (port : String)
    (groups : List String) : poolsFrame.Keeps (updatePortGroups answers port groups) := by
  refine Frame.Keeps.bind (callNeutron_keeps _ _ _) fun _ => ?_
  intro world
  simp only [exec_get_bind]
  cases world.neutron.get? port <;> rfl

theorem updatePortName_keepsPools (answers : Answers) (port name : String)
    (deviceId : Option String) :
    poolsFrame.Keeps (updatePortName answers port name deviceId) := by
  refine Frame.Keeps.bind (callNeutron_keeps _ _ _) fun _ => ?_
  intro world
  simp only [exec_get_bind]
  cases world.neutron.get? port <;> rfl

theorem deletePort_keepsPools (answers : Answers) (port : String) :
    poolsFrame.Keeps (deletePort answers port) :=
  Frame.Keeps.bind (callNeutron_keeps _ _ _) fun _ => Frame.keeps_modify fun _ => rfl

theorem tryDeletePort_keepsPools (answers : Answers) (port : String) :
    poolsFrame.Keeps (tryDeletePort answers port) := by
  refine Frame.Keeps.tryCatch (deletePort_keepsPools answers port) fun ex => ?_
  exact Frame.Keeps.ite (Frame.keeps_throw _) (Frame.keeps_pure _)

theorem spawnPopulation_keepsPools (population : Population) :
    poolsFrame.Keeps (spawnPopulation population) :=
  Frame.keeps_modify fun _ => rfl

theorem getPools_keeps (frame : Frame World) : frame.Keeps getPools := by
  refine Frame.Keeps.bind Frame.keeps_get fun world => ?_
  cases world.pools with
  | none => exact Frame.keeps_throw _
  | some pools => exact Frame.keeps_pure _

theorem spawnWhenLow_keepsPools (options : Options) (population : Population) :
    poolsFrame.Keeps (spawnWhenLow options population) :=
  Frame.Keeps.bind (getPools_keeps _) fun _ =>
    Frame.Keeps.ite (spawnPopulation_keepsPools population) (Frame.keeps_pure _)

theorem existingVif_keeps (frame : Frame World) (port : String) :
    frame.Keeps (existingVif port) := by
  refine Frame.Keeps.bind (getPools_keeps _) fun pools => ?_
  cases pools.existingVifs.dict.get? port with
  | none => exact Frame.keeps_throw _
  | some vif => exact Frame.keeps_pure _

theorem refreshGroups_keepsPools (answers : Answers) (securityGroups : List String)
    (port : String) (reused : Bool) :
    poolsFrame.Keeps (refreshGroups answers securityGroups port reused) :=
  Frame.Keeps.ite (updatePortGroups_keepsPools _ _ _) (Frame.keeps_pure _)

theorem refreshName_keepsPools (driver : Driver) (options : Options) (answers : Answers)
    (pod : Pod) (port : String) :
    poolsFrame.Keeps (refreshName driver options answers pod port) := by
  refine Frame.Keeps.ite ?_ (Frame.keeps_pure _)
  cases driver <;> exact updatePortName_keepsPools _ _ _ _

/-! ## Handing out a port -/

/-- Running with the dictionaries at hand. -/
theorem exec_getPools {world : World} {pools : Pools} (present : world.pools = some pools) :
    exec getPools world = (.ok pools, world) := by
  simp [getPools, present]

/-- `takePort` raises and changes nothing, or takes the selected port out of its
pool. -/
theorem takePort_cases (poolKey : PoolKey) (group : SgKey) (world : World) :
    exec (takePort poolKey group) world = (.error .resourceNotReady, world) ∨
      ∃ pools poolPorts port left reused,
        world.pools = some pools ∧
          pools.availablePortsPools.get? poolKey = some poolPorts ∧
          selectPort poolPorts (pools.lastUpdate.getD poolKey ∅) group =
            some (port, left, reused) ∧
          exec (takePort poolKey group) world =
            (.ok (port, reused), world.withPools (pools.setPool poolKey left)) := by
  simp only [takePort, exec_get_bind]
  cases present : world.pools with
  | none => exact .inl rfl
  | some pools =>
      cases pool : pools.availablePortsPools.get? poolKey with
      | none => exact .inl (by simp [pool])
      | some poolPorts =>
          cases selected :
              selectPort poolPorts (pools.lastUpdate.getD poolKey ∅) group with
          | none => exact .inl (by simp [pool, selected])
          | some taken =>
              rcases taken with ⟨port, left, reused⟩
              refine .inr ⟨pools, poolPorts, port, left, reused, rfl, pool, selected, ?_⟩
              simp [pool, selected, setPools]

theorem preparePort_keepsPools (driver : Driver) (options : Options) (answers : Answers)
    (population : Population) (port : String) (reused : Bool) :
    poolsFrame.Keeps (preparePort driver options answers population port reused) :=
  Frame.Keeps.bind (refreshGroups_keepsPools _ _ _ _) fun _ =>
    Frame.Keeps.bind (refreshName_keepsPools _ _ _ _ _) fun _ =>
      Frame.Keeps.bind (spawnWhenLow_keepsPools _ _) fun _ => existingVif_keeps _ port

/-- The VIF found for a port carries the id of the port. -/
theorem existingVif_ok {port : String} {world after : World} {vif : Vif}
    (ran : exec (existingVif port) world = (.ok vif, after)) : vif.id = port := by
  obtain ⟨pools, middle, _, found⟩ := exec_bind_eq_ok ran
  cases known : pools.existingVifs.dict.get? port with
  | none => simp [known] at found
  | some other =>
      simp only [known, exec_pure, Prod.mk.injEq, Except.ok.injEq] at found
      obtain ⟨rfl, rfl⟩ := found
      exact pools.existingVifs.keyed port other known

theorem preparePort_ok {driver : Driver} {options : Options} {answers : Answers}
    {population : Population} {port : String} {reused : Bool} {world after : World}
    {vif : Vif}
    (ran : exec (preparePort driver options answers population port reused) world =
      (.ok vif, after)) : vif.id = port := by
  obtain ⟨_, _, _, named⟩ := exec_bind_eq_ok ran
  obtain ⟨_, _, _, spawned⟩ := exec_bind_eq_ok named
  obtain ⟨_, _, _, found⟩ := exec_bind_eq_ok spawned
  exact existingVif_ok found

/-- The port an outcome of `request_vif` hands to the pod. -/
def handedPort : Except PyException (Option Vif) → Option String
  | .ok (some vif) => some vif.id
  | _ => none

/-- A taken port is missing from the pools afterwards. -/
theorem available_takePort {pools : Pools} {poolPorts left : PoolPorts}
    {updates : Dict SgKey Int} {poolKey : PoolKey} {group : SgKey} {taken : String}
    {reused : Bool}
    (pool : pools.availablePortsPools.get? poolKey = some poolPorts)
    (selected : selectPort poolPorts updates group = some (taken, left, reused))
    (port : String) :
    (pools.setPool poolKey left).available port +
      (if port = taken then 1 else 0) = pools.available port := by
  obtain ⟨source, pop, _⟩ := selectPort_eq_some selected
  have inPool := occurrences_popPort pop port
  have inPools := Dict.total_set
    (fun _ poolPorts => PoolPorts.occurrences poolPorts port) pools.availablePortsPools
    poolKey left
  rw [Dict.weightAt_of_get?_eq_some pool] at inPools
  simp only [Pools.available, Pools.setPool] at *
  omega

/-- What `_get_port_from_pool` does to the counters of a port. -/
theorem getPortFromPool_accounts {driver : Driver} {options : Options} {answers : Answers}
    {poolKey : PoolKey} {pod : Pod} {subnets : Dict String Network}
    {securityGroups : List String} {before after : World}
    {outcome : Except PyException Vif}
    (ran : exec (getPortFromPool driver options answers poolKey pod subnets securityGroups)
      before = (outcome, after)) (port : String) :
    after.recycling port = before.recycling port ∧
      after.available port +
          (if handedPort (outcome.map some) = some port then 1 else 0) ≤
        before.available port := by
  rcases takePort_cases poolKey (some securityGroups) before with
    raised | ⟨pools, poolPorts, taken, left, reused, present, pool, selected, took⟩
  · rw [getPortFromPool, exec_bind_of_error raised] at ran
    cases ran
    exact ⟨rfl, le_refl _⟩
  · rw [getPortFromPool, exec_bind_of_ok took] at ran
    have kept := preparePort_keepsPools driver options answers
      ⟨poolKey, pod, subnets, securityGroups⟩ taken reused
      (before.withPools (pools.setPool poolKey left))
    rw [ran] at kept
    have accounted := available_takePort pool selected port
    rw [World.recycling_of_pools kept, World.recycling_of_pools present,
      World.available_of_pools kept, World.available_of_pools present]
    refine ⟨rfl, ?_⟩
    cases outcome with
    | error exception => simp [Except.map, handedPort]; omega
    | ok vif =>
        have same := preparePort_ok ran
        simp only [Except.map, handedPort, same, Option.some.injEq, eq_comm (a := port)] at *
        omega

theorem requestFailed_keepsPools (population : Population) (exception : PyException) :
    poolsFrame.Keeps (requestFailed population exception) :=
  Frame.Keeps.ite
    (Frame.Keeps.bind (spawnPopulation_keepsPools population) fun _ =>
      Frame.keeps_throw _)
    (Frame.keeps_throw _)

theorem requestFailed_raises (population : Population) (exception : PyException)
    (world : World) :
    (exec (requestFailed population exception) world).1 = .error exception := by
  by_cases notReady : exception = .resourceNotReady <;>
    simp [requestFailed, notReady, spawnPopulation]

/-- What `request_vif` does to the counters: a port handed out leaves the pools. -/
theorem requestVif_accounts {driver : Driver} {options : Options} {answers : Answers}
    {pod : Pod} {projectId : String} {subnets : Dict String Network}
    {securityGroups : List String} {before after : World}
    {outcome : Except PyException (Option Vif)}
    (ran : exec (requestVif driver options answers pod projectId subnets securityGroups)
      before = (outcome, after)) (port : String) :
    after.recycling port = before.recycling port ∧
      after.available port + (if handedPort outcome = some port then 1 else 0) ≤
        before.available port := by
  unfold requestVif at ran
  split at ran
  · cases ran
    exact ⟨rfl, le_refl _⟩
  · rename_i hostAddr _
    rw [exec_tryCatch, exec_bind] at ran
    rcases took : exec (getPortFromPool driver options answers
      (getPoolKey hostAddr projectId none subnets) pod subnets
      (securityGroups.insertionSort (· ≤ ·))) before with ⟨result, middle⟩
    have accounted := getPortFromPool_accounts took port
    rw [took] at ran
    cases result with
    | ok vif =>
        cases ran
        exact accounted
    | error exception =>
        have raised := requestFailed_raises
          ⟨getPoolKey hostAddr projectId none subnets, pod, subnets,
            securityGroups.insertionSort (· ≤ ·)⟩ exception middle
        have kept := requestFailed_keepsPools
          ⟨getPoolKey hostAddr projectId none subnets, pod, subnets,
            securityGroups.insertionSort (· ≤ ·)⟩ exception middle
        change exec (requestFailed _ exception) middle = (outcome, after) at ran
        rw [ran] at raised kept
        cases raised
        have same := World.counters_of_pools_eq kept port
        rw [same.1, same.2]
        exact accounted

/-! ## Populating a pool -/

/-- Both counters of a port stay the same. -/
abbrev countersFrame (port : String) : Frame World :=
  Frame.same fun world => (world.available port, world.recycling port)

/-- A port gains at most `bound` available occurrences and waits as before. -/
structure Gains (port : String) (bound : Nat) (before after : World) : Prop where
  available : after.available port ≤ before.available port + bound
  recycling : after.recycling port = before.recycling port

namespace Gains

variable {port : String} {bound more : Nat} {first second third : World}

theorem refl (port : String) (bound : Nat) (world : World) : Gains port bound world world :=
  ⟨Nat.le_add_right _ _, rfl⟩

theorem of_counters_eq (bound : Nat) (same : (countersFrame port).rel first second) :
    Gains port bound first second :=
  ⟨(Prod.ext_iff.mp same).1.le.trans (Nat.le_add_right _ _), (Prod.ext_iff.mp same).2⟩

theorem of_pools_eq (bound : Nat) (same : second.pools = first.pools) :
    Gains port bound first second :=
  ⟨(World.counters_of_pools_eq same port).1.le.trans (Nat.le_add_right _ _),
    (World.counters_of_pools_eq same port).2⟩

theorem trans (head : Gains port bound first second) (tail : Gains port more second third) :
    Gains port (bound + more) first third := by
  constructor
  · have early := head.available
    have late := tail.available
    omega
  · exact tail.recycling.trans head.recycling

theorem mono (gains : Gains port bound first second) (enough : bound ≤ more) :
    Gains port more first second :=
  ⟨gains.available.trans (Nat.add_le_add_left enough _), gains.recycling⟩

/-- A sequence gains what its parts gain together. -/
theorem bind {α β : Type} {head : PoolM α} {tail : α → PoolM β} {before : World}
    (start : Gains port bound before (exec head before).2)
    (next : ∀ value middle, exec head before = (.ok value, middle) →
      Gains port more middle (exec (tail value) middle).2) :
    Gains port (bound + more) before (exec (head >>= tail) before).2 := by
  rw [exec_bind]
  rcases ran : exec head before with ⟨outcome, middle⟩
  rw [ran] at start
  cases outcome with
  | error exception => exact start.mono (Nat.le_add_right _ _)
  | ok value => exact start.trans (next value middle ran)

end Gains

theorem getNetworkId_keeps (frame : Frame World) (subnets : Dict String Network) :
    frame.Keeps (getNetworkId subnets) := by
  unfold getNetworkId
  split
  · exact Frame.keeps_pure _
  · exact Frame.keeps_throw _

theorem getHostId_keeps (frame : Frame World) (pod : Pod) : frame.Keeps (getHostId pod) := by
  unfold getHostId
  split
  · exact Frame.keeps_pure _
  · exact Frame.keeps_throw _

theorem getParentTrunk_keeps (frame : Frame World) (answers : Answers) (pod : Pod) :
    frame.Keeps (getParentTrunk answers pod) := by
  unfold getParentTrunk
  split
  · exact Frame.keeps_throw _
  · exact Frame.Keeps.ite (Frame.keeps_throw _) (Frame.keeps_pure _)

theorem createPorts_keepsPools (options : Options) (answers : Answers)
    (record : NeutronPort) (count : Nat) :
    poolsFrame.Keeps (createPorts options answers record count) :=
  Frame.Keeps.bind (callNeutron_keeps _ _ _) fun _ =>
    Frame.Keeps.bind (Frame.keeps_modify fun _ => rfl) fun _ => Frame.keeps_pure _

theorem attachSubports_keepsPools (answers : Answers) (network : String)
    (ports : List String) (vlanIds : List Nat) :
    poolsFrame.Keeps (attachSubports answers network ports vlanIds) :=
  Frame.Keeps.ite
    (Frame.Keeps.bind (Frame.Keeps.forM fun port _ => deletePort_keepsPools answers port)
      fun _ => Frame.keeps_pure _)
    (Frame.keeps_pure _)

theorem requestVifs_keepsPools (driver : Driver) (options : Options) (answers : Answers)
    (pod : Pod) (projectId : String) (subnets : Dict String Network)
    (securityGroups : List String) (numPorts : Nat) :
    poolsFrame.Keeps
      (requestVifs driver options answers pod projectId subnets securityGroups numPorts) := by
  cases driver with
  | neutron =>
      refine Frame.Keeps.bind (getNetworkId_keeps _ _) fun network => ?_
      refine Frame.Keeps.bind (getHostId_keeps _ _) fun _ => ?_
      refine Frame.Keeps.bind (createPorts_keepsPools _ _ _ _) fun ports => ?_
      cases ports with
      | nil => exact Frame.keeps_throw _
      | cons port rest => exact Frame.keeps_pure _
  | nested =>
      refine Frame.Keeps.bind (getParentTrunk_keeps _ _ _) fun _ => ?_
      refine Frame.Keeps.bind (getNetworkId_keeps _ _) fun network => ?_
      refine Frame.Keeps.ite (Frame.keeps_pure _) ?_
      refine Frame.Keeps.bind (createPorts_keepsPools _ _ _ _) fun ports => ?_
      exact attachSubports_keepsPools _ _ _ _

theorem createPorts_ok {options : Options} {answers : Answers} {record : NeutronPort}
    {count : Nat} {before after : World} {ports : List String}
    (ran : exec (createPorts options answers record count) before = (.ok ports, after)) :
    ports = answers.newPortIds.take count := by
  obtain ⟨_, _, _, created⟩ := exec_bind_eq_ok ran
  cases created
  rfl

theorem map_fst_zip_sublist (ports : List String) (vlanIds : List Nat) :
    ((ports.zip vlanIds).map Prod.fst).Sublist ports := by
  induction ports generalizing vlanIds with
  | nil => exact List.Sublist.refl _
  | cons port rest ih =>
      cases vlanIds with
      | nil => exact List.nil_sublist _
      | cons vlanId more => exact (ih more).cons_cons port

theorem attachSubports_ok {answers : Answers} {network : String} {ports : List String}
    {vlanIds : List Nat} {before after : World} {vifs : List Vif}
    (ran : exec (attachSubports answers network ports vlanIds) before = (.ok vifs, after)) :
    (vifs.map Vif.id).Sublist ports := by
  unfold attachSubports at ran
  split at ran
  · obtain ⟨_, _, _, done⟩ := exec_bind_eq_ok ran
    cases done
    exact List.nil_sublist _
  · cases ran
    rw [List.map_map]
    exact map_fst_zip_sublist ports vlanIds

/-- New VIFs carry ids that Neutron has given out for them. -/
theorem requestVifs_ok {driver : Driver} {options : Options} {answers : Answers}
    {pod : Pod} {projectId : String} {subnets : Dict String Network}
    {securityGroups : List String} {numPorts : Nat} {before after : World}
    {vifs : List Vif}
    (ran : exec (requestVifs driver options answers pod projectId subnets securityGroups
      numPorts) before = (.ok vifs, after)) :
    (vifs.map Vif.id).Sublist answers.newPortIds := by
  cases driver with
  | neutron =>
      obtain ⟨network, _, _, hosted⟩ := exec_bind_eq_ok ran
      obtain ⟨_, _, _, requested⟩ := exec_bind_eq_ok hosted
      obtain ⟨ports, _, created, described⟩ := exec_bind_eq_ok requested
      have taken := createPorts_ok created
      cases ports with
      | nil => cases described
      | cons port rest =>
          cases described
          rw [List.map_map]
          change (List.map id (port :: rest)).Sublist answers.newPortIds
          rw [List.map_id, taken]
          exact List.take_sublist _ _
  | nested =>
      obtain ⟨_, _, _, located⟩ := exec_bind_eq_ok ran
      obtain ⟨network, _, _, requested⟩ := exec_bind_eq_ok located
      simp only at requested
      split at requested
      · cases requested
        exact List.nil_sublist _
      · obtain ⟨ports, _, created, attached⟩ := exec_bind_eq_ok requested
        rw [createPorts_ok created] at attached
        exact (attachSubports_ok attached).trans (List.take_sublist _ _)

theorem keepsCounters_of_keepsPools {α : Type} {program : PoolM α} (port : String)
    (kept : poolsFrame.Keeps program) : (countersFrame port).Keeps program :=
  kept.mono fun _ _ same =>
    Prod.ext (World.counters_of_pools_eq same port).1 (World.counters_of_pools_eq same port).2

/-- A program that reads the dictionaries and replaces them. -/
theorem exec_changePools (change : Pools → Pools) (world : World) :
    exec (getPools >>= fun pools => setPools (change pools)) world =
      match world.pools with
      | none => (.error .attributeError, world)
      | some pools => (.ok ⟨⟩, world.withPools (change pools)) := by
  cases present : world.pools with
  | none => simp [getPools, present]
  | some pools => simp [exec_bind_of_ok (exec_getPools present), setPools]

theorem changePools_keepsCounters {change : Pools → Pools} {port : String}
    (available : ∀ pools, (change pools).available port = pools.available port)
    (recycling : ∀ pools, (change pools).recycling port = pools.recycling port) :
    (countersFrame port).Keeps (getPools >>= fun pools => setPools (change pools)) := by
  intro world
  rw [exec_changePools]
  cases present : world.pools with
  | none => rfl
  | some pools =>
      simp [Frame.same, World.available, World.recycling, present, available, recycling]

/-- Dictionaries that list a port more often by a bounded number. -/
theorem Gains.of_pools {port : String} {bound : Nat} {before : World} {pools next : Pools}
    (present : before.pools = some pools)
    (available : next.available port ≤ pools.available port + bound)
    (recycling : next.recycling port = pools.recycling port) :
    Gains port bound before (before.withPools next) := by
  constructor
  · rw [World.available_of_pools rfl, World.available_of_pools present]
    exact available
  · rw [World.recycling_of_pools rfl, World.recycling_of_pools present]
    exact recycling

theorem changePools_gains {change : Pools → Pools} {port : String} {bound : Nat}
    (available : ∀ pools, (change pools).available port ≤ pools.available port + bound)
    (recycling : ∀ pools, (change pools).recycling port = pools.recycling port)
    (before : World) :
    Gains port bound before
      (exec (getPools >>= fun pools => setPools (change pools)) before).2 := by
  rw [exec_changePools]
  cases present : before.pools with
  | none => exact Gains.refl port bound before
  | some pools => exact Gains.of_pools present (available pools) (recycling pools)

theorem recordUpdate_keepsCounters (poolKey : PoolKey) (group : SgKey) (date : Int)
    (port : String) : (countersFrame port).Keeps (recordUpdate poolKey group date) :=
  changePools_keepsCounters (fun _ => rfl) (fun _ => rfl)

/-- Filing several VIFs adds one occurrence for each. -/
theorem counters_foldl_addVif (poolKey : PoolKey) (group : SgKey) (vifs : List Vif)
    (pools : Pools) (port : String) :
    (vifs.foldl (addVif poolKey group) pools).available port =
        pools.available port + (vifs.map Vif.id).count port ∧
      (vifs.foldl (addVif poolKey group) pools).recycling port = pools.recycling port := by
  induction vifs generalizing pools with
  | nil => exact ⟨rfl, rfl⟩
  | cons vif rest ih =>
      obtain ⟨available, recycling⟩ := ih (addVif poolKey group pools vif)
      rw [List.foldl_cons, available, recycling, available_addVif, recycling_addVif,
        List.map_cons, List.count_cons]
      refine ⟨?_, rfl⟩
      by_cases same : port = vif.id
      · simp [same]
        omega
      · simp [same, Ne.symm same]

theorem fileVifs_gains (poolKey : PoolKey) (group : SgKey) (lastUpdate : Int)
    (vifs : List Vif) (before : World) (port : String) :
    Gains port ((vifs.map Vif.id).count port) before
      (exec (fileVifs poolKey group lastUpdate vifs) before).2 := by
  cases present : before.pools with
  | none =>
      have unchanged : (exec (fileVifs poolKey group lastUpdate vifs) before).2 = before := by
        simp [fileVifs, getPools, present]
      rw [unchanged]
      exact Gains.refl port _ before
  | some pools =>
      have kept : (countersFrame port).Keeps
          (if vifs = [] then recordUpdate poolKey group lastUpdate else pure ⟨⟩) :=
        Frame.Keeps.ite (recordUpdate_keepsCounters _ _ _ port) (Frame.keeps_pure _)
      have counted := counters_foldl_addVif poolKey group vifs pools port
      have filed : Gains port ((vifs.map Vif.id).count port) before
          (before.withPools (vifs.foldl (addVif poolKey group) pools)) :=
        Gains.of_pools present counted.1.le counted.2
      rw [fileVifs, exec_bind_of_ok (exec_getPools present), setPools, exec_modify_bind]
      exact filed.trans (Gains.of_counters_eq 0 (kept _))

theorem fillPool_gains (driver : Driver) (options : Options) (answers : Answers)
    (poolKey : PoolKey) (pod : Pod) (subnets : Dict String Network)
    (securityGroups : List String) (lastUpdate : Int) (before : World) (port : String) :
    Gains port (answers.newPortIds.count port) before
      (exec (fillPool driver options answers poolKey pod subnets securityGroups
        lastUpdate) before).2 := by
  cases present : before.pools with
  | none =>
      have unchanged : (exec (fillPool driver options answers poolKey pod subnets
          securityGroups lastUpdate) before).2 = before := by
        simp [fillPool, getPools, present]
      rw [unchanged]
      exact Gains.refl port _ before
  | some pools =>
      rw [fillPool, exec_bind_of_ok (exec_getPools present)]
      simp only
      split
      · have kept := requestVifs_keepsPools driver options answers pod poolKey.projectId
          subnets securityGroups (populationSize options (getPoolSize pools poolKey)) before
        rw [← Nat.zero_add (answers.newPortIds.count port)]
        refine Gains.bind (Gains.of_pools_eq 0 kept) fun vifs middle ran => ?_
        have filed := fileVifs_gains poolKey (some securityGroups) lastUpdate vifs middle port
        exact filed.mono ((requestVifs_ok ran).count_le port)
      · exact Gains.refl port _ before

theorem populateRecovered_gains (driver : Driver) (options : Options)
    (answers : Answers) (now : Int) (poolKey : PoolKey) (pod : Pod)
    (subnets : Dict String Network) (securityGroups : List String) (before : World)
    (port : String) :
    Gains port (answers.newPortIds.count port) before
      (exec (populateRecovered driver options answers now poolKey pod subnets
        securityGroups) before).2 := by
  cases present : before.pools with
  | none =>
      have unchanged : (exec (populateRecovered driver options answers now poolKey pod
          subnets securityGroups) before).2 = before := by
        simp [populateRecovered, getPools, present]
      rw [unchanged]
      exact Gains.refl port _ before
  | some pools =>
      rw [populateRecovered, exec_bind_of_ok (exec_getPools present)]
      simp only
      split
      · exact Gains.refl port _ before
      · have recorded := recordUpdate_keepsCounters poolKey (some securityGroups) now port
          before
        rw [← Nat.zero_add (answers.newPortIds.count port)]
        refine Gains.bind (Gains.of_counters_eq 0 recorded) fun _ middle _ => ?_
        exact fillPool_gains driver options answers poolKey pod subnets securityGroups
          ((pools.lastUpdate.getD poolKey ∅).getD (some securityGroups) 0) middle port

/-- What `_populate_pool` does to the counters: it files new ports at most. -/
theorem populatePool_gains (driver : Driver) (options : Options) (answers : Answers)
    (now : Int) (poolKey : PoolKey) (pod : Pod) (subnets : Dict String Network)
    (securityGroups : List String) (before : World) (port : String) :
    Gains port (answers.newPortIds.count port) before
      (exec (populatePool driver options answers now poolKey pod subnets
        securityGroups) before).2 := by
  rw [populatePool, exec_get_bind]
  split
  · exact populateRecovered_gains driver options answers now poolKey pod subnets
      securityGroups before port
  · exact Gains.refl port _ before

end KuryrKubernetes.Pool

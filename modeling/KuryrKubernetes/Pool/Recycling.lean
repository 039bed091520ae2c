import KuryrKubernetes.Pool.Accounting

/-!
# Where released and recovered ports go

The counters of the pools over `release_vif`, `_trigger_return_to_pool`,
`sync_pools`, the recovery of precreated ports and `remove_sg_from_pools`.
-/

namespace KuryrKubernetes.Pool

open KuryrKubernetes.Data
open KuryrKubernetes.Effect

theorem World.recycling_le_one (world : World) (port : String) :
    world.recycling port ≤ 1 := by
  unfold World.recycling
  cases world.pools with
  | none => exact Nat.zero_le 1
  | some pools =>
      simp only [Option.elim, Pools.recycling]
      split <;> simp

/-! ## Releasing -/

theorem releaseVifAt_accounts (hostAddr : String) (vif : Vif) (projectId : String)
    (before : World) (port : String) :
    let result := exec (releaseVifAt hostAddr vif projectId) before
    result.2.available port = before.available port ∧
      (port ≠ vif.id → result.2.recycling port = before.recycling port) ∧
      (∀ exception, result.1 = .error exception → result.2 = before) := by
  intro result
  simp only [result, releaseVifAt, exec_get_bind]
  cases present : before.pools with
  | none => exact ⟨rfl, fun _ => rfl, fun _ _ => rfl⟩
  | some pools =>
      refine ⟨?_, ?_, ?_⟩
      · simp [setPools, World.available, present, Pools.available]
      · intro different
        simp [setPools, World.recycling, present, Pools.recycling, different]
      · intro exception raised
        cases raised

/-- What `release_vif` does to the counters: the port waits for recycling, and
nothing happens when it raises. -/
theorem releaseVif_accounts (driver : Driver) (answers : Answers) (pod : Pod) (vif : Vif)
    (projectId : String) (before : World) (port : String) :
    let result := exec (releaseVif driver answers pod vif projectId) before
    result.2.available port = before.available port ∧
      (port ≠ vif.id → result.2.recycling port = before.recycling port) ∧
      (∀ exception, result.1 = .error exception → result.2 = before) := by
  intro result
  simp only [result, releaseVif]
  split
  · exact releaseVifAt_accounts _ vif projectId before port
  · exact ⟨rfl, fun _ => rfl, fun _ _ => rfl⟩
  · split
    · exact ⟨rfl, fun _ => rfl, fun _ _ => rfl⟩
    · exact releaseVifAt_accounts _ vif projectId before port

/-! ## Recycling -/

/-- Available and waiting occurrences of a port together. -/
def World.pooled (world : World) (port : String) : Nat :=
  world.available port + world.recycling port

theorem deleteExistingVif_keepsCounters (port other : String) :
    (countersFrame other).Keeps (deleteExistingVif port) := by
  intro world
  cases present : world.pools with
  | none => simp [deleteExistingVif, getPools, present, Frame.same]
  | some pools =>
      simp only [deleteExistingVif]
      rw [exec_bind_of_ok (exec_getPools present)]
      cases pools.existingVifs.dict.get? port with
      | none => rfl
      | some vif =>
          simp [setPools, Frame.same, World.available, World.recycling, present,
            Pools.available, Pools.recycling]

theorem deletePort_keepsCounters (answers : Answers) (port other : String) :
    (countersFrame other).Keeps (deletePort answers port) :=
  keepsCounters_of_keepsPools other (deletePort_keepsPools answers port)

theorem getTrunkId_keepsPools (answers : Answers) (poolKey : PoolKey) :
    poolsFrame.Keeps (getTrunkId answers poolKey) := by
  refine Frame.Keeps.bind Frame.keeps_get fun world => ?_
  cases world.knownTrunkIds.get? poolKey with
  | some trunkId => exact Frame.keeps_pure _
  | none =>
      refine Frame.Keeps.ite (Frame.keeps_throw _) ?_
      cases answers.trunks.parentPorts.find? (·.ip = poolKey.host) with
      | none => exact Frame.keeps_throw _
      | some parent =>
          exact Frame.Keeps.bind (Frame.keeps_modify fun _ => rfl) fun _ =>
            Frame.keeps_pure _

theorem renameRecyclable_keepsPools (driver : Driver) (options : Options)
    (answers : Answers) (port : String) :
    poolsFrame.Keeps (renameRecyclable driver options answers port) := by
  refine Frame.Keeps.ite ?_ (Frame.keeps_pure _)
  cases driver <;> exact updatePortName_keepsPools _ _ _ _

/-- How a turn of the recycling loop may change the pools: no port is counted
more often, and only the port of the turn stops waiting. -/
def turnFrame (turn : String) : Frame World where
  rel before after := ∀ port,
    after.pooled port ≤ before.pooled port ∧
      (port ≠ turn → after.recycling port = before.recycling port)
  refl _ _ := ⟨le_refl _, fun _ => rfl⟩
  trans first second port :=
    ⟨(second port).1.trans (first port).1,
      fun different => ((second port).2 different).trans ((first port).2 different)⟩

theorem keepsTurn_of_keepsCounters {α : Type} {program : PoolM α} (turn : String)
    (kept : ∀ port, (countersFrame port).Keeps program) :
    (turnFrame turn).Keeps program := by
  intro world port
  obtain ⟨available, recycling⟩ := Prod.ext_iff.mp (kept port world)
  simp only at available recycling
  exact ⟨by simp only [World.pooled, available, recycling]; rfl, fun _ => recycling⟩

theorem keepsTurn_of_keepsPools {α : Type} {program : PoolM α} (turn : String)
    (kept : poolsFrame.Keeps program) : (turnFrame turn).Keeps program :=
  keepsTurn_of_keepsCounters turn fun port => keepsCounters_of_keepsPools port kept

theorem dropRecyclable_keepsTurn (turn : String) :
    (turnFrame turn).Keeps (dropRecyclable turn) := by
  intro world port
  rw [dropRecyclable, exec_changePools]
  cases present : world.pools with
  | none => exact ⟨le_refl _, fun _ => rfl⟩
  | some pools =>
      have fewer : Pools.recycling
          { pools with recyclablePorts := pools.recyclablePorts.erase turn } port ≤
          pools.recycling port := by
        simp only [Pools.recycling, Dict.mem_erase]
        split <;> split <;> simp_all
      refine ⟨?_, fun different => ?_⟩
      · simp only [World.pooled, World.available, World.recycling, present, Option.elim]
        exact Nat.add_le_add_left fewer _
      · simp [World.recycling, present, Pools.recycling, different]

theorem deleteRecyclableNeutron_keepsTurn (answers : Answers) (turn : String) :
    (turnFrame turn).Keeps (deleteRecyclableNeutron answers turn) := by
  refine Frame.Keeps.bind ?_ fun _ => dropRecyclable_keepsTurn turn
  refine Frame.Keeps.tryCatch ?_ fun exception =>
    Frame.Keeps.ite (Frame.keeps_pure _) (Frame.keeps_throw _)
  refine keepsTurn_of_keepsCounters turn fun port => ?_
  exact Frame.Keeps.bind (deleteExistingVif_keepsCounters turn port) fun _ =>
    deletePort_keepsCounters answers turn port

theorem deleteRecyclableNested_keepsTurn (answers : Answers) (poolKey : PoolKey)
    (turn : String) :
    (turnFrame turn).Keeps (deleteRecyclableNested answers poolKey turn) := by
  refine Frame.Keeps.bind
    (keepsTurn_of_keepsPools turn (getTrunkId_keepsPools answers poolKey)) fun _ => ?_
  refine Frame.Keeps.bind ?_ fun done =>
    Frame.Keeps.ite (dropRecyclable_keepsTurn turn) (Frame.keeps_pure _)
  refine Frame.Keeps.tryCatch ?_ fun exception =>
    Frame.Keeps.ite (Frame.keeps_pure _)
      (Frame.Keeps.ite (Frame.keeps_pure _) (Frame.keeps_throw _))
  refine Frame.Keeps.bind
    (keepsTurn_of_keepsPools turn (callNeutron_keeps _ _ _)) fun _ => ?_
  refine Frame.Keeps.bind (keepsTurn_of_keepsCounters turn
    (deleteExistingVif_keepsCounters turn)) fun _ => ?_
  refine Frame.Keeps.bind (keepsTurn_of_keepsCounters turn
    (deletePort_keepsCounters answers turn)) fun _ => Frame.keeps_pure _

theorem exec_returnPort (poolKey : PoolKey) (group : SgKey) (port : String) (world : World) :
    exec (returnPort poolKey group port) world =
      match world.pools with
      | none => (.error .attributeError, world)
      | some pools =>
          let filed := filePort pools poolKey group port
          (.ok ⟨⟩, world.withPools { filed with
            recyclablePorts := filed.recyclablePorts.erase port }) := by
  cases present : world.pools with
  | none => simp [returnPort, getPools, present]
  | some pools =>
      rw [returnPort, exec_bind_of_ok (exec_getPools present), setPools, exec_modify_bind,
        dropRecyclable, exec_changePools]
      rfl

/-- A port that waits is counted as often after it returned to its pool. -/
theorem returnPort_turn {poolKey : PoolKey} {group : SgKey} {turn : String}
    {before : World} (waits : before.recycling turn = 1) :
    (turnFrame turn).rel before (exec (returnPort poolKey group turn) before).2 := by
  intro port
  rw [exec_returnPort]
  cases present : before.pools with
  | none => exact ⟨le_refl _, fun _ => rfl⟩
  | some pools =>
      have filed := available_filePort pools poolKey group turn port
      have kept := recycling_filePort pools poolKey group turn port
      rw [World.recycling_of_pools present] at waits
      simp only [World.pooled, World.available_of_pools present,
        World.recycling_of_pools present]
      simp only [World.available, World.recycling, World.pools_withPools, Option.elim,
        Pools.available, Pools.recycling] at *
      by_cases same : port = turn
      · subst port
        simp_all
      · simp_all

/-- The part of a turn that returns the port unless it cannot be renamed. -/
theorem renameThenReturn_turn {driver : Driver} {options : Options} {answers : Answers}
    {group : SgKey} {turn : String} {poolKey : PoolKey} {before : World}
    (waits : before.recycling turn = 1) :
    (turnFrame turn).rel before
      (exec (renameThenReturn driver options answers group turn poolKey) before).2 := by
  have kept : poolsFrame.Keeps (tryRename driver options answers turn) :=
    Frame.Keeps.tryCatch
      (Frame.Keeps.bind (renameRecyclable_keepsPools driver options answers turn)
        fun _ => Frame.keeps_pure _)
      fun _ => Frame.Keeps.ite (Frame.keeps_pure _) (Frame.keeps_throw _)
  have first := keepsTurn_of_keepsPools turn kept before
  have waiting := (World.counters_of_pools_eq (kept before) turn).2
  rw [renameThenReturn, exec_bind]
  rcases ran : exec (tryRename driver options answers turn) before with ⟨outcome, middle⟩
  rw [ran] at first waiting
  cases outcome with
  | error exception => exact first
  | ok renamed =>
      cases renamed with
      | false => exact first
      | true => exact (turnFrame turn).trans first (returnPort_turn (waiting.trans waits))

theorem recyclePort_turn (driver : Driver) (options : Options) (answers : Answers)
    (groupOf : String → SgKey) {turn : String} (poolKey : PoolKey) {before : World}
    (waits : before.recycling turn = 1) :
    (turnFrame turn).rel before
      (exec (recyclePort driver options answers groupOf turn poolKey) before).2 := by
  cases present : before.pools with
  | none =>
      have unchanged : (exec (recyclePort driver options answers groupOf turn poolKey)
          before).2 = before := by simp [recyclePort, getPools, present]
      rw [unchanged]
      exact (turnFrame turn).refl before
  | some pools =>
      simp only [recyclePort]
      rw [exec_bind_of_ok (exec_getPools present)]
      split
      · exact renameThenReturn_turn waits
      · cases driver with
        | neutron => exact deleteRecyclableNeutron_keepsTurn answers turn before
        | nested => exact deleteRecyclableNested_keepsTurn answers poolKey turn before

/-- The invariant of the recycling loop: the ports still to come wait, and `port`
is not counted more often than at the start. -/
structure RecyclingLoop (start : World) (port : String) (rest : List (String × PoolKey))
    (world : World) : Prop where
  distinct : (rest.map Prod.fst).Nodup
  waiting : ∀ item ∈ rest, world.recycling item.1 = 1
  bounded : world.pooled port ≤ start.pooled port

theorem RecyclingLoop.turn {driver : Driver} {options : Options} {answers : Answers}
    {groupOf : String → SgKey} {start world : World} {port : String}
    {item : String × PoolKey} {rest : List (String × PoolKey)}
    (loop : RecyclingLoop start port (item :: rest) world) :
    RecyclingLoop start port rest
      (exec (recyclePort driver options answers groupOf item.1 item.2) world).2 := by
  have distinct := loop.distinct
  rw [List.map_cons, List.nodup_cons] at distinct
  have turned := recyclePort_turn driver options answers groupOf item.2
    (loop.waiting item List.mem_cons_self)
  constructor
  · exact distinct.2
  · intro other member
    have different : other.1 ≠ item.1 := by
      intro same
      exact distinct.1 (same ▸ List.mem_map_of_mem member)
    rw [(turned other.1).2 different]
    exact loop.waiting other (List.mem_cons_of_mem _ member)
  · exact (turned port).1.trans loop.bounded

/-- What `_trigger_return_to_pool` does to the counters: no port is counted more
often than before. -/
theorem triggerReturnToPool_accounts (driver : Driver) (options : Options)
    (answers : Answers) (before : World) (port : String) :
    (exec (triggerReturnToPool driver options answers) before).2.pooled port ≤
      before.pooled port := by
  cases present : before.pools with
  | none =>
      have unchanged : (exec (triggerReturnToPool driver options answers) before).2 =
          before := by simp [triggerReturnToPool, present]
      rw [unchanged]
  | some pools =>
      have loop : exec (triggerReturnToPool driver options answers) before =
          exec (pools.recyclablePorts.items.forM fun item =>
            recyclePort driver options answers
              (currentGroups driver options pools before.neutron) item.1 item.2) before := by
        simp [triggerReturnToPool, present]
      have initial : RecyclingLoop before port pools.recyclablePorts.items before := by
        refine ⟨pools.recyclablePorts.nodupKeys, fun item member => ?_, le_refl _⟩
        rw [World.recycling_of_pools present, Pools.recycling,
          if_pos (Dict.mem_of_mem_items member)]
      obtain ⟨rest, final⟩ := exec_forM_invariant (RecyclingLoop before port) initial
        fun item rest world => RecyclingLoop.turn
      rw [loop]
      exact final.bounded

/-! ## Start-up -/

/-- After `sync_pools` the pools are empty. -/
theorem syncPools_accounts (before : World) (port : String) :
    (exec syncPools before).2.available port = 0 ∧
      (exec syncPools before).2.recycling port = 0 :=
  ⟨rfl, rfl⟩

/-- A loop gains what its turns gain together; `ids` lists the ports of a turn. -/
theorem forM_gains {ι : Type} {body : ι → PoolM Unit} {ids : ι → List String}
    {port : String}
    (turn : ∀ item before,
      Gains port ((ids item).count port) before (exec (body item) before).2)
    (items : List ι) (before : World) :
    Gains port ((items.flatMap ids).count port) before
      (exec (items.forM body) before).2 := by
  induction items generalizing before with
  | nil => exact Gains.refl port _ before
  | cons item rest ih =>
      rw [forM_cons_eq, List.flatMap_cons, List.count_append]
      exact Gains.bind (turn item before) fun _ middle _ => ih middle

theorem forM_gains_zero {ι : Type} {body : ι → PoolM Unit} {port : String}
    (turn : ∀ item before, Gains port 0 before (exec (body item) before).2)
    (items : List ι) (before : World) :
    Gains port 0 before (exec (items.forM body) before).2 := by
  induction items generalizing before with
  | nil => exact Gains.refl port 0 before
  | cons item rest ih =>
      rw [forM_cons_eq, ← Nat.add_zero 0]
      exact Gains.bind (turn item before) fun _ middle _ => ih middle

theorem count_singleton_eq (id port : String) :
    [id].count port = if port = id then 1 else 0 := by
  rw [List.count_singleton]
  simp only [beq_iff_eq, eq_comm (a := port)]

theorem fileVif_gains (poolKey : PoolKey) (group : SgKey) (vif : Vif) (before : World)
    (port : String) :
    Gains port ([vif.id].count port) before
      (exec (getPools >>= fun pools => setPools (addVif poolKey group pools vif))
        before).2 := by
  rw [count_singleton_eq]
  exact changePools_gains (fun pools => (available_addVif poolKey group pools vif port).le)
    (fun pools => recycling_addVif poolKey group pools vif port) before

/-- The port of a record can be filed. -/
def NeutronPort.hasBinding (record : NeutronPort) : Bool :=
  record.bindingVifType.isSome && record.bindingHostId.isSome

/-- The ports that recovery files. -/
def recoveredIds (driver : Driver) (options : Options) (answers : Answers)
    (neutron : Dict String NeutronPort) : List String :=
  match driver with
  | .neutron =>
      ((recoverablePorts options answers neutron).filter fun item =>
        item.2.hasBinding).map Prod.fst
  | .nested =>
      answers.trunks.subPortIds.filter (· ∈ availableSubports options answers neutron)

/-- Recovery files no port twice. -/
theorem nodup_recoveredIds (driver : Driver) (options : Options) (answers : Answers)
    (neutron : Dict String NeutronPort) :
    (recoveredIds driver options answers neutron).Nodup := by
  cases driver with
  | neutron =>
      refine neutron.nodupKeys.sublist (List.Sublist.map Prod.fst ?_)
      exact List.filter_sublist.trans List.filter_sublist
  | nested => exact answers.trunks.subPortsNodup.filter _

theorem recoverPort_gains (answers : Answers) (item : String × NeutronPort)
    (before : World) (port : String) :
    Gains port ((if item.2.hasBinding then [item.1] else []).count port) before
      (exec (recoverPort answers item.1 item.2) before).2 := by
  rcases item with ⟨id, record⟩
  cases vifType : record.bindingVifType with
  | none =>
      simp only [recoverPort, vifType]
      exact Gains.of_pools_eq _ (deletePort_keepsPools answers id before)
  | some value =>
      cases host : record.bindingHostId with
      | none =>
          simp only [recoverPort, vifType, host]
          exact Gains.of_pools_eq _ (deletePort_keepsPools answers id before)
      | some hostAddr =>
          simp only [recoverPort, vifType, host, NeutronPort.hasBinding, Option.isSome_some,
            Bool.and_self, ite_true]
          exact fileVif_gains _ _ ⟨id, _, _, _, _, _⟩ before port

theorem recoverSubport_gains (answers : Answers) (available : Dict String NeutronPort)
    (hostAddr : String) (subport : String × Nat) (before : World) (port : String) :
    Gains port (([subport.1].filter (· ∈ available)).count port) before
      (exec (recoverSubport answers available hostAddr subport) before).2 := by
  cases found : available.get? subport.1 with
  | none =>
      simp only [recoverSubport, found]
      exact Gains.refl port _ before
  | some record =>
      have member : subport.1 ∈ available := Dict.mem_iff_exists_get?.mpr ⟨record, found⟩
      simp only [recoverSubport, found, List.filter_cons, member, decide_true, ite_true,
        List.filter_nil]
      exact fileVif_gains _ _ ⟨subport.1, _, _, _, _, _⟩ before port

theorem recoverPrecreatedPortsNeutron_gains (options : Options) (answers : Answers)
    (before : World) (port : String) :
    Gains port ((recoveredIds .neutron options answers before.neutron).count port) before
      (exec (recoverPrecreatedPortsNeutron options answers) before).2 := by
  have turns := forM_gains (recoverPort_gains answers · · port)
    (recoverablePorts options answers before.neutron) before
  have listed : (recoverablePorts options answers before.neutron).flatMap
      (fun item => if item.2.hasBinding then [item.1] else []) =
        recoveredIds .neutron options answers before.neutron := by
    simp only [recoveredIds]
    induction recoverablePorts options answers before.neutron with
    | nil => rfl
    | cons item rest ih =>
        cases bound : item.2.hasBinding <;> simp [bound, ih]
  rw [listed] at turns
  exact turns

theorem recoverPrecreatedPortsNested_gains (options : Options) (answers : Answers)
    (before : World) (port : String) :
    Gains port ((recoveredIds .nested options answers before.neutron).count port) before
      (exec (recoverPrecreatedPortsNested options answers) before).2 := by
  have deleted (ports : List String) : poolsFrame.Keeps (ports.forM (tryDeletePort answers)) :=
    Frame.Keeps.forM fun id _ => tryDeletePort_keepsPools answers id
  have listed : (answers.trunks.parentPorts.flatMap fun parent =>
      parent.subPorts.flatMap fun subport =>
        [subport.1].filter (· ∈ availableSubports options answers before.neutron)) =
        recoveredIds .nested options answers before.neutron := by
    simp only [recoveredIds, Trunks.subPortIds, List.map_eq_flatMap, List.filter_flatMap,
      List.flatMap_assoc]
  rw [recoverPrecreatedPortsNested, exec_get_bind, ← listed,
    ← Nat.zero_add (List.count port _)]
  refine Gains.bind (Gains.of_pools_eq 0 (deleted _ before)) fun _ middle _ => ?_
  refine forM_gains (fun parent world => ?_) answers.trunks.parentPorts middle
  exact forM_gains
    (recoverSubport_gains answers (availableSubports options answers before.neutron)
      parent.ip · · port) parent.subPorts world

/-- What the recovery does to the counters: it files the recovered ports at most. -/
theorem recoverPools_gains (driver : Driver) (options : Options) (answers : Answers)
    (before : World) (port : String) :
    Gains port ((recoveredIds driver options answers before.neutron).count port) before
      (exec (recoverPools driver options answers) before).2 := by
  rw [recoverPools, ← Nat.add_zero (List.count port _)]
  refine Gains.bind ?_ fun _ _ _ => Gains.of_pools_eq 0 rfl
  cases driver with
  | neutron => exact recoverPrecreatedPortsNeutron_gains options answers before port
  | nested => exact recoverPrecreatedPortsNested_gains options answers before port

/-! ## Removing a security group -/

theorem clearPort_gains (answers : Answers) (poolKey : PoolKey) (id : String)
    (before : World) (port : String) :
    Gains port ([id].count port) before (exec (clearPort answers poolKey id) before).2 := by
  rw [clearPort, ← Nat.zero_add (List.count port [id])]
  refine Gains.bind (Gains.of_pools_eq 0 (updatePortGroups_keepsPools answers id [] before))
    fun _ middle _ => ?_
  rw [count_singleton_eq]
  exact changePools_gains
    (fun pools => (available_filePort pools poolKey (some []) id port).le)
    (fun pools => recycling_filePort pools poolKey (some []) id port) middle

/-- The ports of a list are missing from the pools without that list. -/
theorem available_eraseGroup {pools : Pools} {poolKey : PoolKey} {group : SgKey}
    {ports : List String}
    (list : (pools.availablePortsPools.getD poolKey ∅).get? group = some ports)
    (port : String) :
    (pools.eraseGroup poolKey group).available port +
      ports.count port = pools.available port := by
  have inPool := Dict.total_erase (fun _ ports => ports.count port)
    (pools.availablePortsPools.getD poolKey ∅) group
  have inPools := Dict.total_alter
    (fun _ poolPorts => PoolPorts.occurrences poolPorts port)
    pools.availablePortsPools poolKey ∅ (fun poolPorts => poolPorts.erase group)
    (occurrences_empty port)
  rw [Dict.weightAt_of_get?_eq_some list] at inPool
  simp only [Pools.available, Pools.eraseGroup, Pools.setPool, PoolPorts.occurrences,
    Dict.alter] at *
  omega

/-- The ports of a list that is taken apart are filed again at most. -/
theorem removeGroup_gains (answers : Answers) (poolKey : PoolKey) (group : SgKey)
    (before : World) (port : String) :
    Gains port 0 before (exec (removeGroup answers poolKey group) before).2 := by
  cases present : before.pools with
  | none =>
      have unchanged : (exec (removeGroup answers poolKey group) before).2 = before := by
        simp [removeGroup, getPools, present]
      rw [unchanged]
      exact Gains.refl port 0 before
  | some pools =>
      rw [removeGroup, exec_bind_of_ok (exec_getPools present)]
      cases list : (pools.availablePortsPools.getD poolKey ∅).get? group with
      | none =>
          simp only
          exact Gains.refl port 0 before
      | some ports =>
          simp only [setPools]
          rw [exec_modify_bind]
          have filed := fun world => Gains.bind
            (forM_gains (clearPort_gains answers poolKey · · port) ports world)
            fun _ middle _ => Gains.of_counters_eq 0
              (recordUpdate_keepsCounters poolKey (some []) 0 port middle)
          have gained := filed (before.withPools (pools.eraseGroup poolKey group))
          rw [List.flatMap_singleton'] at gained
          constructor
          · rw [World.available_of_pools present]
            exact gained.available.trans (available_eraseGroup list port).le
          · rw [gained.recycling, World.recycling_of_pools present]
            rfl

theorem removeSgFromGroup_gains (answers : Answers) (sgId : String) (poolKey : PoolKey)
    (group : SgKey) (before : World) (port : String) :
    Gains port 0 before (exec (removeSgFromGroup answers sgId poolKey group) before).2 := by
  cases group with
  | none => exact Gains.refl port 0 before
  | some groups =>
      simp only [removeSgFromGroup]
      split
      · exact removeGroup_gains answers poolKey (some groups) before port
      · exact Gains.refl port 0 before

/-- What `remove_sg_from_pools` does to the counters: no port is counted more
often. -/
theorem removeSgFromPools_gains (answers : Answers) (sgId netId : String) (before : World)
    (port : String) :
    Gains port 0 before (exec (removeSgFromPools answers sgId netId) before).2 := by
  rw [removeSgFromPools, ← Nat.add_zero 0]
  refine Gains.bind (Gains.of_counters_eq 0 (getPools_keeps _ before))
    fun pools middle _ => ?_
  refine forM_gains_zero (fun pool world => ?_) pools.availablePortsPools.items middle
  unfold removeSgFromPool
  split
  · exact forM_gains_zero (removeSgFromGroup_gains answers sgId pool.1 · · port)
      pool.2.keys world
  · exact Gains.refl port 0 world

end KuryrKubernetes.Pool

import KuryrKubernetes.Pool.Backed
import KuryrKubernetes.Pool.SecurityGroups

/-!
# Ports that are deleted leave the pools

Recycling, recovery and the methods of the nested driver delete ports.  Each keeps the pools
sound where what it deletes is not pooled afterwards: a port of a full pool is recyclable no
more, a freed port was filed where `_precreated_ports` looks for it, and a network loses whole
pools.
-/

namespace KuryrKubernetes.Pool

open KuryrKubernetes.Data
open KuryrKubernetes.Effect
open KuryrKubernetes.Transition

/-! ## Deleting a port and its VIF -/

section

variable {answers : Answers} {world : World} {pools : Pools} {port : String}

/-- The world without a port in Neutron. -/
def World.lose (world : World) (port : String) : World :=
  { world with neutron := world.neutron.erase port }

theorem exec_deletePort (answers : Answers) (port : String) (world : World) :
    exec (deletePort answers port) world =
      if answers.fails (.deletePort port) then
        (.error .sdkException, world)
      else
        (.ok ⟨⟩, world.lose port) := by
  rw [deletePort, exec_bind, exec_callNeutron]
  cases answers.fails (.deletePort port) with
  | true => rfl
  | false => rfl

/-- The pools without the VIF of a port. -/
def Pools.forget (pools : Pools) (port : String) : Pools :=
  { pools with existingVifs := pools.existingVifs.erase port }

theorem exec_deleteExistingVif (present : world.pools = some pools) (port : String) :
    exec (deleteExistingVif port) world =
      if port ∈ pools.existingVifs.dict then
        (.ok ⟨⟩, world.withPools (pools.forget port))
      else
        (.error .keyError, world) := by
  rw [deleteExistingVif, exec_bind_of_ok (exec_getPools present)]
  cases found : pools.existingVifs.dict.get? port with
  | none =>
      rw [if_neg (Dict.not_mem_iff_get?_eq_none.mpr found)]
      rfl
  | some vif =>
      rw [if_pos (Dict.mem_iff_exists_get?.mpr ⟨vif, found⟩)]
      rfl

/-- The world without a port and its VIF. -/
def World.forget (world : World) (pools : Pools) (port : String) : World :=
  (world.withPools (pools.forget port)).lose port

/-- The other ports stay backed. -/
theorem World.Backed.forget {other : String} (backed : world.Backed other)
    (present : world.pools = some pools) (different : other ≠ port) :
    (world.forget pools port).Backed other := by
  have known := (World.knows_of_pools present).mp backed.vif
  exact ⟨⟨_, rfl, Dict.mem_erase.mpr ⟨different, known⟩⟩,
    Dict.mem_erase.mpr ⟨different, backed.inNeutron⟩⟩

theorem World.pooled_forget (present : world.pools = some pools) (other : String) :
    (world.forget pools port).pooled other = world.pooled other := by
  rw [World.pooled, World.pooled, World.available_of_pools present,
    World.recycling_of_pools present]
  rfl

end

/-! ## Recycling -/

section

variable {answers : Answers} {before : World} {turn : String}

/-- A port that stops waiting need not be backed any more. -/
theorem dropRecyclable_sound (once : ∀ port, before.pooled port ≤ 1)
    (waits : before.recycling turn = 1)
    (backed : ∀ port, port ≠ turn → 0 < before.pooled port → before.Backed port) :
    (exec (dropRecyclable turn) before).2.Sound := by
  have turned := dropRecyclable_keepsTurn turn before
  have kept (port : String) : (backedFrame port).Keeps (dropRecyclable turn) :=
    changePools_keepsBacked fun _ => rfl
  have gone : (exec (dropRecyclable turn) before).2.pooled turn = 0 := by
    have bounded := once turn
    rw [dropRecyclable, exec_changePools]
    cases present : before.pools with
    | none =>
        rw [World.recycling, present] at waits
        cases waits
    | some pools =>
        rw [World.pooled, World.available_of_pools present, waits] at bounded
        have unlisted : pools.available turn = 0 := by omega
        simp [World.pooled, World.available, World.recycling, Pools.recycling, Dict.mem_erase]
        exact unlisted
  constructor
  · intro port
    exact (turned port).1.trans (once port)
  · intro port pooled
    by_cases same : port = turn
    · rw [same, gone] at pooled
      exact absurd pooled (Nat.lt_irrefl 0)
    · exact kept port before (backed port same (pooled.trans_le (turned port).1))

/-- The removal of a subport of a full pool does nothing, or deletes the port and its VIF. -/
theorem removal_cases (served : answers.fails (.deletePort turn) = false) (world : World) :
    let removal : PoolM Bool :=
      tryCatch
        (do
          callNeutron answers (.removeSubport turn)
          deleteExistingVif turn
          deletePort answers turn
          pure true)
        fun ex =>
          if ex = .keyError then pure true
          else if ex.isSdkException then pure false
          else throw ex
    (exec removal world).2 = world ∨
      ∃ pools, world.pools = some pools ∧
        exec removal world = (.ok true, world.forget pools turn) := by
  intro removal
  simp only [removal, exec_tryCatch]
  rw [exec_bind, exec_callNeutron]
  cases answers.fails (.removeSubport turn) with
  | true => exact .inl rfl
  | false =>
      cases present : world.pools with
      | none =>
          left
          simp [deleteExistingVif, getPools, present, PyException.isSdkException]
      | some pools =>
          simp only [Bool.false_eq_true, ite_false]
          rw [exec_bind, exec_deleteExistingVif present]
          by_cases known : turn ∈ pools.existingVifs.dict
          · right
            refine ⟨pools, rfl, ?_⟩
            rw [if_pos known]
            simp only
            rw [exec_bind, exec_deletePort, served]
            rfl
          · left
            rw [if_neg known]
            rfl

theorem getTrunkId_sound (poolKey : PoolKey) (sound : before.Sound) :
    (exec (getTrunkId answers poolKey) before).2.Sound :=
  sound.keeps
    (fun port => keepsCounters_of_keepsPools port (getTrunkId_keepsPools answers poolKey))
    fun _ => keepsBacked_of_keepsPools (getTrunkId_keepsPools answers poolKey)
      (keepsExists_of_keepsNeutron (getTrunkId_keepsNeutron answers poolKey))

/-- A port of a full pool is deleted, if Neutron deletes it at all, with its VIF and its place
among the recyclable ports. -/
theorem deleteRecyclableNested_sound (poolKey : PoolKey) (sound : before.Sound)
    (waits : before.recycling turn = 1) (served : answers.fails (.deletePort turn) = false) :
    (exec (deleteRecyclableNested answers poolKey turn) before).2.Sound := by
  have located : (exec (getTrunkId answers poolKey) before).2.Sound := getTrunkId_sound poolKey sound
  have kept := getTrunkId_keepsPools answers poolKey before
  rw [deleteRecyclableNested, exec_bind]
  rcases ran : exec (getTrunkId answers poolKey) before with ⟨outcome, middle⟩
  rw [ran] at located kept
  have waiting : middle.recycling turn = 1 := (World.counters_of_pools_eq kept turn).2.trans waits
  cases outcome with
  | error exception => exact located
  | ok trunkId =>
      simp only
      rw [exec_bind]
      rcases removal_cases served middle with unchanged | ⟨pools, present, deleted⟩
      · generalize exec _ middle = removed at unchanged ⊢
        rcases removed with ⟨done, world⟩
        simp only at unchanged
        subst unchanged
        cases done with
        | error exception => exact located
        | ok done =>
            cases done with
            | false => exact located
            | true => exact dropRecyclable_sound located.once waiting fun port _ => located.backed port
      · rw [deleted]
        apply dropRecyclable_sound
        · intro port
          rw [World.pooled_forget present]
          exact located.once port
        · rw [← waiting, World.recycling_of_pools present]
          rfl
        · intro port different pooled
          rw [World.pooled_forget present] at pooled
          exact (located.backed port pooled).forget present different

theorem returnPort_keepsBacked (poolKey : PoolKey) (group : SgKey) (returned port : String) :
    (backedFrame port).Keeps (returnPort poolKey group returned) := by
  rintro world ⟨⟨pools, present, member⟩, inNeutron⟩
  rw [exec_returnPort, present]
  exact ⟨⟨_, rfl, member⟩, inNeutron⟩

theorem renameThenReturn_keepsBacked (options : Options) (group : SgKey) (returned : String)
    (poolKey : PoolKey) (port : String) :
    (backedFrame port).Keeps
      (renameThenReturn .nested options answers group returned poolKey) := by
  have renames : (backedFrame port).Keeps
      (renameRecyclable .nested options answers returned) :=
    Frame.Keeps.ite
      (keepsBacked_of_keepsPools (updatePortName_keepsPools _ _ _ _)
        (updatePortName_keepsExists _ _ _ _))
      (Frame.keeps_pure _)
  have tries : (backedFrame port).Keeps (tryRename .nested options answers returned) :=
    Frame.Keeps.tryCatch (renames.bind fun _ => Frame.keeps_pure _)
      fun _ => Frame.Keeps.ite (Frame.keeps_pure _) (Frame.keeps_throw _)
  apply tries.bind
  intro renamed
  exact Frame.Keeps.ite (returnPort_keepsBacked _ _ _ _) (Frame.keeps_pure _)

/-- One turn of the recycling loop.  Only a full pool has its port deleted. -/
theorem recyclePort_sound {options : Options} (groupOf : String → SgKey) (poolKey : PoolKey)
    (sound : before.Sound) (waits : before.recycling turn = 1)
    (served : options.portsPoolMax = 0 ∨ answers.fails (.deletePort turn) = false) :
    (exec (recyclePort .nested options answers groupOf turn poolKey) before).2.Sound := by
  cases present : before.pools with
  | none =>
      have unchanged : (exec (recyclePort .nested options answers groupOf turn poolKey)
          before).2 = before := by simp [recyclePort, getPools, present]
      rw [unchanged]
      exact sound
  | some pools =>
      simp only [recyclePort]
      rw [exec_bind_of_ok (exec_getPools present)]
      split
      · have turned : (turnFrame turn).rel before
            (exec (renameThenReturn .nested options answers (groupOf turn) turn poolKey)
              before).2 := renameThenReturn_turn waits
        exact sound.of_fewer (fun port => (turned port).1)
          fun port _ => renameThenReturn_keepsBacked options _ _ _ port before
      · rename_i full
        have refused : answers.fails (.deletePort turn) = false :=
          served.resolve_left fun unlimited => full (.inl unlimited)
        exact deleteRecyclableNested_sound poolKey sound waits refused

/-- The invariant of the recycling loop: the ports to come wait, and the pools are sound. -/
structure SoundLoop (options : Options) (answers : Answers) (rest : List (String × PoolKey))
    (world : World) : Prop where
  distinct : (rest.map Prod.fst).Nodup
  waiting : ∀ item ∈ rest, world.recycling item.1 = 1
  served : options.portsPoolMax = 0 ∨
    ∀ item ∈ rest, answers.fails (.deletePort item.1) = false
  sound : world.Sound

theorem SoundLoop.next {options : Options} {groupOf : String → SgKey}
    {item : String × PoolKey} {rest : List (String × PoolKey)}
    (loop : SoundLoop options answers (item :: rest) before) :
    SoundLoop options answers rest
      (exec (recyclePort .nested options answers groupOf item.1 item.2) before).2 := by
  have waits := loop.waiting item List.mem_cons_self
  have once : RecyclingLoop before item.1 (item :: rest) before :=
    ⟨loop.distinct, loop.waiting, le_refl _⟩
  have next : RecyclingLoop before item.1 rest
      (exec (recyclePort .nested options answers groupOf item.1 item.2) before).2 := once.turn
  have served := loop.served.imp_right fun all => all item List.mem_cons_self
  constructor
  · exact next.distinct
  · exact next.waiting
  · exact loop.served.imp_right fun all later member => all later (List.mem_cons_of_mem _ member)
  · exact recyclePort_sound groupOf item.2 loop.sound waits served

/-- The ports that wait for recycling, with their pools. -/
def World.recyclables (world : World) : List (String × PoolKey) :=
  world.pools.elim [] fun pools => pools.recyclablePorts.items

/-- `_trigger_return_to_pool` keeps the pools sound if Neutron deletes the ports of full pools. -/
theorem triggerReturnToPool_sound {options : Options} (sound : before.Sound)
    (served : options.portsPoolMax = 0 ∨
      ∀ item ∈ before.recyclables, answers.fails (.deletePort item.1) = false) :
    (exec (triggerReturnToPool .nested options answers) before).2.Sound := by
  cases present : before.pools with
  | none =>
      have unchanged : (exec (triggerReturnToPool .nested options answers) before).2 =
          before := by simp [triggerReturnToPool, present]
      rw [unchanged]
      exact sound
  | some pools =>
      have loop : exec (triggerReturnToPool .nested options answers) before =
          exec (pools.recyclablePorts.items.forM fun item =>
            recyclePort .nested options answers
              (currentGroups .nested options pools before.neutron) item.1 item.2) before := by
        simp [triggerReturnToPool, present]
      have start : SoundLoop options answers pools.recyclablePorts.items before := by
        constructor
        · exact pools.recyclablePorts.nodupKeys
        · intro item member
          rw [World.recycling_of_pools present, Pools.recycling,
            if_pos (Dict.mem_of_mem_items member)]
        · rw [World.recyclables, present] at served
          exact served
        · exact sound
      obtain ⟨rest, final⟩ := exec_forM_invariant (SoundLoop options answers) start
        fun item rest world => SoundLoop.next
      rw [loop]
      exact final.sound

end

/-! ## Ports of no trunk -/

section

variable {answers : Answers} {before : World}

theorem tryDeletePort_keepsExists (answers : Answers) {deleted port : String}
    (different : port ≠ deleted) : (existsFrame port).Keeps (tryDeletePort answers deleted) := by
  have deletes : (existsFrame port).Keeps (deletePort answers deleted) :=
    keepsExists_of_keepsGroups (deletePort_keepsGroups answers deleted) different
  exact deletes.tryCatch fun _ => Frame.Keeps.ite (Frame.keeps_throw _) (Frame.keeps_pure _)

theorem tryDeletePorts_keepsPools (answers : Answers) (ports : List String) :
    poolsFrame.Keeps (ports.forM (tryDeletePort answers)) :=
  Frame.Keeps.forM fun deleted _ => tryDeletePort_keepsPools answers deleted

theorem tryDeletePorts_keepsExists (answers : Answers) {ports : List String} {port : String}
    (kept : port ∉ ports) : (existsFrame port).Keeps (ports.forM (tryDeletePort answers)) := by
  apply Frame.Keeps.forM
  intro deleted member
  exact tryDeletePort_keepsExists answers fun same => kept (same ▸ member)

/-- Ports that are not pooled may be deleted. -/
theorem tryDeletePorts_sound {ports : List String} (sound : before.Sound)
    (unpooled : ∀ port ∈ ports, before.pooled port = 0) :
    (exec (ports.forM (tryDeletePort answers)) before).2.Sound := by
  have kept := tryDeletePorts_keepsPools answers ports before
  have counters (port : String) := World.counters_of_pools_eq kept port
  apply sound.of_fewer
  · intro port
    exact (World.pooled_eq (counters port).1 (counters port).2).le
  · intro port pooled backed
    rw [World.pooled_eq (counters port).1 (counters port).2] at pooled
    have spared : port ∉ ports := by
      intro member
      rw [unpooled port member] at pooled
      exact absurd pooled (Nat.lt_irrefl 0)
    exact ⟨backed.vif.of_pools_eq kept,
      tryDeletePorts_keepsExists answers spared before backed.inNeutron⟩

end

/-! ## Recovery -/

section

variable {options : Options} {answers : Answers} {before : World}

/-- What the recovery of a trunk keeps: pooled ports are backed, and the subports exist. -/
def Recovering (known : String → Prop) (world : World) : Prop :=
  (∀ port, 0 < world.pooled port → world.Backed port) ∧ ∀ port, known port → port ∈ world.neutron

/-- A recovered port has a VIF and exists. -/
theorem recoverSubport_recovers {known : String → Prop} {available : Dict String NeutronPort}
    (hostAddr : String) {subport : String × Nat}
    (listed : subport.1 ∈ available → known subport.1) :
    (Frame.stable (Recovering known)).Keeps
      (recoverSubport answers available hostAddr subport) := by
  rintro world ⟨backed, exist⟩
  cases found : available.get? subport.1 with
  | none =>
      simp only [recoverSubport, found]
      exact ⟨backed, exist⟩
  | some record =>
      simp only [recoverSubport, found]
      rw [exec_changePools]
      cases present : world.pools with
      | none => exact ⟨backed, exist⟩
      | some pools =>
          constructor
          · intro port pooled
            by_cases same : port = subport.1
            · have inNeutron := exist subport.1 (listed (Dict.mem_iff_exists_get?.mpr ⟨_, found⟩))
              exact ⟨⟨_, rfl, Dict.mem_set.mpr (.inl same)⟩, same ▸ inNeutron⟩
            · simp only [World.pooled, World.available, World.recycling, World.pools_withPools,
                Option.elim, available_addVif, recycling_addVif, if_neg same] at pooled
              have old : 0 < world.pooled port := by
                rw [World.pooled, World.available_of_pools present,
                  World.recycling_of_pools present]
                exact pooled
              have held := backed port old
              exact ⟨⟨_, rfl, Dict.mem_set.mpr (.inr ((World.knows_of_pools present).mp held.vif))⟩,
                held.inNeutron⟩
          · exact exist

theorem mem_neutron_of_availableSubports {neutron : Dict String NeutronPort} {port : String}
    (listed : port ∈ availableSubports options answers neutron) : port ∈ neutron := by
  rcases Dict.mem_iff_exists_get?.mp listed with ⟨record, found⟩
  have member := (List.mem_filter.mp (Dict.mem_of_get?_ofList found)).1
  exact Dict.mem_of_mem_items member

/-- The subports that are listed and attached. -/
def attachedSubport (answers : Answers) (available : Dict String NeutronPort) (port : String) :
    Prop :=
  port ∈ available ∧ port ∈ answers.trunks.subPortIds

/-- Ports of no trunk are deleted, and the attached ones stay. -/
theorem recoverPrecreatedPortsNested_recovers (sound : before.Sound)
    (detached : ∀ port ∈ NestedVifPool.detachedPorts answers
      (availableSubports options answers before.neutron), before.pooled port = 0) :
    Recovering (attachedSubport answers (availableSubports options answers before.neutron))
      (exec (recoverPrecreatedPortsNested options answers) before).2 := by
  have turns : (Frame.stable (Recovering
      (attachedSubport answers (availableSubports options answers before.neutron)))).Keeps
      (answers.trunks.parentPorts.forM fun parent => parent.subPorts.forM
        (recoverSubport answers (availableSubports options answers before.neutron) parent.ip)) := by
    apply Frame.Keeps.forM
    intro parent isParent
    apply Frame.Keeps.forM
    intro subport isSubport
    apply recoverSubport_recovers
    intro listed
    exact ⟨listed, List.mem_map_of_mem (List.mem_flatMap.mpr ⟨parent, isParent, isSubport⟩)⟩
  have deleted : (exec ((NestedVifPool.detachedPorts answers
      (availableSubports options answers before.neutron)).forM (tryDeletePort answers))
        before).2.Sound := tryDeletePorts_sound sound detached
  have spared (port : String)
      (attached : attachedSubport answers (availableSubports options answers before.neutron) port) :
      port ∉ NestedVifPool.detachedPorts answers
        (availableSubports options answers before.neutron) := by
    intro member
    have outside := (List.mem_filter.mp member).2
    exact absurd attached.2 (of_decide_eq_true outside)
  have start : Recovering
      (attachedSubport answers (availableSubports options answers before.neutron))
      (exec ((NestedVifPool.detachedPorts answers
        (availableSubports options answers before.neutron)).forM (tryDeletePort answers))
          before).2 := by
    constructor
    · exact deleted.backed
    · intro port attached
      exact tryDeletePorts_keepsExists answers (spared port attached) before
        (mem_neutron_of_availableSubports attached.1)
  rw [recoverPrecreatedPortsNested, exec_get_bind]
  exact Frame.stable_bind start fun _ => turns

/-- The recovery keeps the pools sound if it finds and deletes no port that is pooled. -/
theorem recoverPools_sound (sound : before.Sound)
    (found : ∀ port ∈ recoveredIds .nested options answers before.neutron,
      before.pooled port = 0)
    (detached : ∀ port ∈ NestedVifPool.detachedPorts answers
      (availableSubports options answers before.neutron), before.pooled port = 0) :
    (exec (recoverPools .nested options answers) before).2.Sound := by
  have recovered := recoverPrecreatedPortsNested_recovers sound detached
  constructor
  · intro port
    have gains := recoverPools_gains .nested options answers before port
    have available := gains.available
    have once := List.nodup_iff_count_le_one.mp
      (nodup_recoveredIds .nested options answers before.neutron) port
    have bounded := sound.once port
    rw [World.pooled] at bounded ⊢
    rw [gains.recycling]
    by_cases member : port ∈ recoveredIds .nested options answers before.neutron
    · have unpooled := found port member
      rw [World.pooled] at unpooled
      omega
    · rw [List.count_eq_zero.mpr member] at available
      omega
  · have marked : (Frame.stable (Recovering
        (attachedSubport answers (availableSubports options answers before.neutron)))).Keeps
        (modify fun world => { world with recoveredPools := true } : PoolM PUnit) := by
      rintro world ⟨backed, exist⟩
      constructor
      · intro port pooled
        have held := backed port pooled
        exact ⟨held.vif, held.inNeutron⟩
      · exact exist
    exact (Frame.stable_bind recovered fun _ => marked).1

end

end KuryrKubernetes.Pool

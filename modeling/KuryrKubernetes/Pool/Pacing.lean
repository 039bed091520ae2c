import KuryrKubernetes.Pool.Exclusive

/-!
# How often pools are populated

`_last_update` holds, for a pool, the date of one population only: a population for other groups
replaces it.  Runs are followed with the ports that were created in bulk, newest first.
-/

namespace KuryrKubernetes.Pool

open KuryrKubernetes.Data
open KuryrKubernetes.Effect
open KuryrKubernetes.Transition

/-! ## The dates of a pool -/

/-- `_last_update.get(pool_key)`, empty where there is none. -/
def World.updatesOf (world : World) (poolKey : PoolKey) : Dict SgKey Int :=
  world.pools.elim ∅ fun pools => pools.lastUpdate.getD poolKey ∅

theorem World.updatesOf_of_pools {world : World} {pools : Pools}
    (present : world.pools = some pools) (poolKey : PoolKey) :
    world.updatesOf poolKey = pools.lastUpdate.getD poolKey ∅ := by
  unfold World.updatesOf
  rw [present]
  rfl

/-- The dates of a pool stay the same. -/
abbrev updatesFrame (poolKey : PoolKey) : Frame World :=
  Frame.same fun world => world.updatesOf poolKey

section

variable {poolKey : PoolKey}

theorem keepsUpdates_of_keepsPools {α : Type} {program : PoolM α}
    (kept : poolsFrame.Keeps program) : (updatesFrame poolKey).Keeps program := by
  apply kept.mono
  intro before after same
  have samePools : after.pools = before.pools := same
  change after.updatesOf poolKey = before.updatesOf poolKey
  unfold World.updatesOf
  rw [samePools]

/-- Before `sync_pools` has run nothing comes after the dictionaries are looked for. -/
theorem exec_getPools_bind_of_none {α : Type} {world : World} (absent : world.pools = none)
    (rest : Pools → PoolM α) :
    exec (getPools >>= rest) world = (.error .attributeError, world) := by
  unfold getPools
  rw [bind_assoc, exec_get_bind, absent]
  rfl

/-- A change of the dictionaries keeps dates that it does not write. -/
theorem changePools_keepsUpdates {change : Pools → Pools}
    (same : ∀ pools, (change pools).lastUpdate.getD poolKey ∅ =
      pools.lastUpdate.getD poolKey ∅) :
    (updatesFrame poolKey).Keeps (getPools >>= fun pools => setPools (change pools)) := by
  intro world
  rw [exec_changePools]
  cases present : world.pools with
  | none => rfl
  | some pools =>
      change (world.withPools (change pools)).updatesOf poolKey = world.updatesOf poolKey
      rw [World.updatesOf_of_pools rfl, World.updatesOf_of_pools present]
      exact same pools

theorem recordUpdate_keepsUpdates {other : PoolKey} (different : other ≠ poolKey)
    (group : SgKey) (date : Int) :
    (updatesFrame poolKey).Keeps (recordUpdate other group date) := by
  apply changePools_keepsUpdates
  intro pools
  unfold Dict.getD
  rw [Dict.get?_set_of_ne _ _ different.symm]

theorem lastUpdate_foldl_addVif (other : PoolKey) (group : SgKey) (vifs : List Vif)
    (pools : Pools) :
    (vifs.foldl (addVif other group) pools).lastUpdate = pools.lastUpdate := by
  induction vifs generalizing pools with
  | nil => rfl
  | cons vif rest ih => exact ih (addVif other group pools vif)

/-! ## Operations that record no population -/

theorem takePort_keepsUpdates (other : PoolKey) (group : SgKey) :
    (updatesFrame poolKey).Keeps (takePort other group) := by
  intro world
  rcases takePort_cases other group world with
    unchanged | ⟨pools, poolPorts, port, left, reused, present, _, _, taken⟩
  · rw [unchanged]
    rfl
  · rw [taken]
    change (world.withPools (pools.setPool other left)).updatesOf poolKey =
      world.updatesOf poolKey
    rw [World.updatesOf_of_pools rfl, World.updatesOf_of_pools present]
    rfl

theorem requestVif_keepsUpdates (driver : Driver) (options : Options) (answers : Answers)
    (pod : Pod) (projectId : String) (subnets : Dict String Network)
    (securityGroups : List String) :
    (updatesFrame poolKey).Keeps
      (requestVif driver options answers pod projectId subnets securityGroups) := by
  unfold requestVif
  split
  · exact Frame.keeps_pure _
  · apply Frame.Keeps.tryCatch
    · apply Frame.Keeps.bind
      · apply (takePort_keepsUpdates _ _).bind
        intro taken
        exact keepsUpdates_of_keepsPools (preparePort_keepsPools _ _ _ _ _ _)
      · intro vif
        exact Frame.keeps_pure _
    · intro exception
      exact keepsUpdates_of_keepsPools (requestFailed_keepsPools _ exception)

theorem releaseVifAt_keepsUpdates (hostAddr : String) (vif : Vif) (projectId : String) :
    (updatesFrame poolKey).Keeps (releaseVifAt hostAddr vif projectId) := by
  intro world
  unfold releaseVifAt
  rw [exec_get_bind]
  cases present : world.pools with
  | none => rfl
  | some pools =>
      change (world.withPools _).updatesOf poolKey = world.updatesOf poolKey
      rw [World.updatesOf_of_pools rfl, World.updatesOf_of_pools present]

theorem releaseVif_keepsUpdates (driver : Driver) (answers : Answers) (pod : Pod) (vif : Vif)
    (projectId : String) :
    (updatesFrame poolKey).Keeps (releaseVif driver answers pod vif projectId) := by
  unfold releaseVif
  split
  · exact releaseVifAt_keepsUpdates _ vif projectId
  · exact Frame.keeps_throw _
  · split
    · exact Frame.keeps_pure _
    · exact releaseVifAt_keepsUpdates _ vif projectId

theorem deleteExistingVif_keepsUpdates (port : String) :
    (updatesFrame poolKey).Keeps (deleteExistingVif port) := by
  intro world
  cases present : world.pools with
  | none =>
      unfold deleteExistingVif
      rw [exec_getPools_bind_of_none present]
      rfl
  | some pools =>
      unfold deleteExistingVif
      rw [exec_bind_of_ok (exec_getPools present)]
      cases pools.existingVifs.dict.get? port with
      | none => rfl
      | some vif =>
          change (world.withPools _).updatesOf poolKey = world.updatesOf poolKey
          rw [World.updatesOf_of_pools rfl, World.updatesOf_of_pools present]

theorem dropRecyclable_keepsUpdates (port : String) :
    (updatesFrame poolKey).Keeps (dropRecyclable port) :=
  changePools_keepsUpdates fun _ => rfl

theorem returnPort_keepsUpdates (other : PoolKey) (group : SgKey) (port : String) :
    (updatesFrame poolKey).Keeps (returnPort other group port) := by
  intro world
  rw [exec_returnPort]
  cases present : world.pools with
  | none => rfl
  | some pools =>
      change (world.withPools _).updatesOf poolKey = world.updatesOf poolKey
      rw [World.updatesOf_of_pools rfl, World.updatesOf_of_pools present]
      rfl

theorem renameThenReturn_keepsUpdates (driver : Driver) (options : Options)
    (answers : Answers) (group : SgKey) (port : String) (other : PoolKey) :
    (updatesFrame poolKey).Keeps
      (renameThenReturn driver options answers group port other) := by
  apply Frame.Keeps.bind
  · apply Frame.Keeps.tryCatch
    · apply (keepsUpdates_of_keepsPools (renameRecyclable_keepsPools _ _ _ _)).bind
      intro _
      exact Frame.keeps_pure _
    · intro exception
      exact (Frame.keeps_pure _).ite (Frame.keeps_throw _)
  · intro renamed
    exact (returnPort_keepsUpdates other group port).ite (Frame.keeps_pure _)

theorem deleteRecyclableNeutron_keepsUpdates (answers : Answers) (port : String) :
    (updatesFrame poolKey).Keeps (deleteRecyclableNeutron answers port) := by
  apply Frame.Keeps.bind
  · apply Frame.Keeps.tryCatch
    · apply (deleteExistingVif_keepsUpdates port).bind
      intro _
      exact keepsUpdates_of_keepsPools (deletePort_keepsPools answers port)
    · intro exception
      exact (Frame.keeps_pure _).ite (Frame.keeps_throw _)
  · intro _
    exact dropRecyclable_keepsUpdates port

theorem deleteRecyclableNested_keepsUpdates (answers : Answers) (other : PoolKey)
    (port : String) :
    (updatesFrame poolKey).Keeps (deleteRecyclableNested answers other port) := by
  apply (keepsUpdates_of_keepsPools (getTrunkId_keepsPools answers other)).bind
  intro _
  apply Frame.Keeps.bind
  · apply Frame.Keeps.tryCatch
    · apply (callNeutron_keeps _ _ _).bind
      intro _
      apply (deleteExistingVif_keepsUpdates port).bind
      intro _
      apply (keepsUpdates_of_keepsPools (deletePort_keepsPools answers port)).bind
      intro _
      exact Frame.keeps_pure _
    · intro exception
      exact (Frame.keeps_pure _).ite ((Frame.keeps_pure _).ite (Frame.keeps_throw _))
  · intro done
    exact (dropRecyclable_keepsUpdates port).ite (Frame.keeps_pure _)

theorem triggerReturnToPool_keepsUpdates (driver : Driver) (options : Options)
    (answers : Answers) :
    (updatesFrame poolKey).Keeps (triggerReturnToPool driver options answers) := by
  apply Frame.keeps_get.bind
  intro world
  split
  · exact Frame.keeps_pure _
  · apply Frame.Keeps.forM
    intro item _
    apply (getPools_keeps _).bind
    intro pools
    apply (renameThenReturn_keepsUpdates _ _ _ _ _ _).ite
    cases driver with
    | neutron => exact deleteRecyclableNeutron_keepsUpdates answers item.1
    | nested => exact deleteRecyclableNested_keepsUpdates answers item.2 item.1

theorem recoverPort_keepsUpdates (answers : Answers) (port : String) (record : NeutronPort) :
    (updatesFrame poolKey).Keeps (recoverPort answers port record) := by
  have deletes : (updatesFrame poolKey).Keeps (deletePort answers port) :=
    keepsUpdates_of_keepsPools (deletePort_keepsPools answers port)
  unfold recoverPort
  cases record.bindingVifType with
  | none => exact deletes
  | some vifType =>
      cases record.bindingHostId with
      | none => exact deletes
      | some host => exact changePools_keepsUpdates fun _ => rfl

theorem recoverPools_keepsUpdates (driver : Driver) (options : Options) (answers : Answers) :
    (updatesFrame poolKey).Keeps (recoverPools driver options answers) := by
  apply Frame.Keeps.bind
  · cases driver with
    | neutron =>
        apply Frame.keeps_get.bind
        intro world
        apply Frame.Keeps.forM
        rintro ⟨port, record⟩ _
        exact recoverPort_keepsUpdates answers port record
    | nested =>
        apply Frame.keeps_get.bind
        intro world
        apply Frame.Keeps.bind
        · apply Frame.Keeps.forM
          intro port _
          exact keepsUpdates_of_keepsPools (tryDeletePort_keepsPools answers port)
        · intro _
          apply Frame.Keeps.forM
          intro parent _
          apply Frame.Keeps.forM
          intro subport _
          unfold recoverSubport
          split
          · exact Frame.keeps_pure _
          · exact changePools_keepsUpdates fun _ => rfl
  · intro _
    exact Frame.keeps_modify fun _ => rfl

theorem updateVifSgs_keepsUpdates (answers : Answers) (pod : Pod)
    (securityGroups : List String) :
    (updatesFrame poolKey).Keeps (updateVifSgs answers pod securityGroups) := by
  unfold updateVifSgs
  split
  · exact Frame.keeps_pure _
  · exact keepsUpdates_of_keepsPools (updatePortGroups_keepsPools _ _ _)

/-! ## Removing a security group -/

/-- A pool whose lists name the group is marked as updated the longest ago. -/
def Pools.ListsGroup (pools : Pools) (poolKey : PoolKey) (sgId netId : String) : Prop :=
  poolKey.netId = some netId ∧ ∃ poolPorts ∈ pools.availablePortsPools.get? poolKey,
    ∃ group ∈ poolPorts.keys, ∃ groups ∈ group, sgId ∈ groups

instance (pools : Pools) (poolKey : PoolKey) (sgId netId : String) :
    Decidable (pools.ListsGroup poolKey sgId netId) :=
  inferInstanceAs (Decidable (_ ∧ ∃ poolPorts ∈ pools.availablePortsPools.get? poolKey, _))

theorem removeGroup_keepsUpdates (answers : Answers) {other : PoolKey}
    (different : other ≠ poolKey) (group : SgKey) :
    (updatesFrame poolKey).Keeps (removeGroup answers other group) := by
  intro world
  cases present : world.pools with
  | none =>
      unfold removeGroup
      rw [exec_getPools_bind_of_none present]
      rfl
  | some pools =>
      unfold removeGroup
      rw [exec_bind_of_ok (exec_getPools present)]
      cases (pools.availablePortsPools.getD other ∅).get? group with
      | none => rfl
      | some ports =>
          have clears : (updatesFrame poolKey).Keeps
              (do
                ports.forM (clearPort answers other)
                recordUpdate other (some []) 0) := by
            apply Frame.Keeps.bind
            · apply Frame.Keeps.forM
              intro port _
              apply (keepsUpdates_of_keepsPools (updatePortGroups_keepsPools _ _ _)).bind
              intro _
              exact changePools_keepsUpdates fun _ => rfl
            · intro _
              exact recordUpdate_keepsUpdates different _ _
          have erased : (world.withPools (pools.eraseGroup other group)).updatesOf poolKey =
              world.updatesOf poolKey := by
            rw [World.updatesOf_of_pools rfl, World.updatesOf_of_pools present]
            rfl
          exact (clears (world.withPools (pools.eraseGroup other group))).trans erased

/-- Removing a group keeps the dates of the pools that do not list it. -/
theorem removeSgFromPools_keepsUpdates (answers : Answers) (sgId netId : String)
    {world : World}
    (unlisted : ∀ pools ∈ world.pools, ¬pools.ListsGroup poolKey sgId netId) :
    (exec (removeSgFromPools answers sgId netId) world).2.updatesOf poolKey =
      world.updatesOf poolKey := by
  cases present : world.pools with
  | none =>
      unfold removeSgFromPools
      rw [exec_getPools_bind_of_none present]
  | some pools =>
      have unlistedHere := unlisted pools present
      unfold removeSgFromPools
      rw [exec_bind_of_ok (exec_getPools present)]
      have turns : (updatesFrame poolKey).Keeps
          (pools.availablePortsPools.items.forM (removeSgFromPool answers sgId netId)) := by
        apply Frame.Keeps.forM
        rintro ⟨other, poolPorts⟩ listed
        unfold removeSgFromPool
        split
        · rename_i sameNet
          apply Frame.Keeps.forM
          intro group member
          unfold removeSgFromGroup
          cases group with
          | none => exact Frame.keeps_throw _
          | some groups =>
              dsimp only
              split
              · rename_i named
                apply removeGroup_keepsUpdates
                rintro rfl
                exact unlistedHere
                  ⟨sameNet, poolPorts, Dict.mem_items_iff.mp listed, some groups, member, groups,
                    rfl, named⟩
              · exact Frame.keeps_pure _
        · exact Frame.keeps_pure _
      exact turns world

/-! ## Populations -/

/-- Filing keeps what recording a date and changing the pools with the dates as they are keep. -/
theorem fileVifs_keeps {frame : Frame World} (poolKey : PoolKey) (group : SgKey)
    (lastUpdate : Int) (vifs : List Vif)
    (records : frame.Keeps (recordUpdate poolKey group lastUpdate))
    (files : ∀ change : Pools → Pools, (∀ pools, (change pools).lastUpdate = pools.lastUpdate) →
      frame.Keeps (getPools >>= fun pools => setPools (change pools))) :
    frame.Keeps (fileVifs poolKey group lastUpdate vifs) := by
  have split : fileVifs poolKey group lastUpdate vifs =
      (getPools >>= fun pools => setPools (vifs.foldl (addVif poolKey group) pools)) >>= fun _ =>
        if vifs = [] then recordUpdate poolKey group lastUpdate else pure () := by
    unfold fileVifs
    rw [bind_assoc]
  rw [split]
  apply (files _ fun pools => lastUpdate_foldl_addVif poolKey group vifs pools).bind
  intro _
  exact records.ite (Frame.keeps_pure _)

theorem fileVifs_keepsUpdates {other : PoolKey} (different : other ≠ poolKey) (group : SgKey)
    (lastUpdate : Int) (vifs : List Vif) :
    (updatesFrame poolKey).Keeps (fileVifs other group lastUpdate vifs) := by
  apply fileVifs_keeps
  · exact recordUpdate_keepsUpdates different group lastUpdate
  · intro change same
    apply changePools_keepsUpdates
    intro pools
    rw [same]

/-- A population records no date for another pool. -/
theorem populatePool_keepsUpdates (driver : Driver) (options : Options) (answers : Answers)
    (now : Int) {other : PoolKey} (different : other ≠ poolKey) (pod : Pod)
    (subnets : Dict String Network) (securityGroups : List String) :
    (updatesFrame poolKey).Keeps
      (populatePool driver options answers now other pod subnets securityGroups) := by
  apply Frame.keeps_get.bind
  intro world
  apply Frame.Keeps.ite
  · apply (getPools_keeps _).bind
    intro pools
    apply Frame.Keeps.ite
    · exact Frame.keeps_pure _
    · apply (recordUpdate_keepsUpdates different _ now).bind
      intro _
      apply (getPools_keeps _).bind
      intro _
      apply Frame.Keeps.ite
      · apply (keepsUpdates_of_keepsPools (requestVifs_keepsPools _ _ _ _ _ _ _ _)).bind
        intro vifs
        exact fileVifs_keepsUpdates different _ _ vifs
      · exact Frame.keeps_pure _
  · exact Frame.keeps_throw _

end

/-- The number of ports in a pool. -/
def World.poolSize (world : World) (poolKey : PoolKey) : Nat :=
  world.pools.elim 0 fun pools => getPoolSize pools poolKey

section

variable {driver : Driver} {options : Options} {answers : Answers} {now : Int}
  {poolKey : PoolKey} {pod : Pod} {subnets : Dict String Network}
  {securityGroups : List String} {world : World}

/-- A population that comes too early changes nothing. -/
theorem populatePool_of_recent {date : Int}
    (recorded : (world.updatesOf poolKey).get? (some securityGroups) = some date)
    (recent : now - options.portsPoolUpdateFrequency < date) :
    (exec (populatePool driver options answers now poolKey pod subnets securityGroups)
      world).2 = world := by
  unfold populatePool
  rw [exec_get_bind]
  split
  · unfold populateRecovered
    cases present : world.pools with
    | none =>
        rw [exec_getPools_bind_of_none present]
    | some pools =>
        rw [exec_bind_of_ok (exec_getPools present)]
        dsimp only
        rw [World.updatesOf_of_pools present] at recorded
        have some_ : (pools.lastUpdate.getD poolKey ∅).items ≠ [] := by
          intro none_
          have empty : pools.lastUpdate.getD poolKey ∅ = ∅ := Dict.ext_items none_
          rw [empty, Dict.get?_empty] at recorded
          cases recorded
        rw [Dict.getD_of_get?_eq_some 0 recorded, if_pos ⟨some_, recent⟩]
        rfl
  · rfl

/-- A pool grows only after `sync_pools` has run. -/
theorem exists_pools_of_grown {α : Type} {rest : Pools → PoolM α}
    (grown : world.poolSize poolKey < (exec (getPools >>= rest) world).2.poolSize poolKey) :
    ∃ pools, world.pools = some pools := by
  cases present : world.pools with
  | none =>
      rw [exec_getPools_bind_of_none present] at grown
      exact absurd grown (lt_irrefl _)
  | some pools => exact ⟨pools, rfl⟩

/-- Ports are filed only where there are some; then the date of the population stays. -/
theorem fileVifs_records {group : SgKey} {lastUpdate date : Int} {vifs : List Vif}
    (recorded : (world.updatesOf poolKey).get? group = some date)
    (grown : world.poolSize poolKey <
      (exec (fileVifs poolKey group lastUpdate vifs) world).2.poolSize poolKey) :
    ((exec (fileVifs poolKey group lastUpdate vifs) world).2.updatesOf poolKey).get? group =
      some date := by
  unfold fileVifs at grown ⊢
  obtain ⟨pools, present⟩ := exists_pools_of_grown grown
  rw [exec_bind_of_ok (exec_getPools present)] at grown ⊢
  cases vifs with
  | nil =>
      exfalso
      have same : (exec (do
          setPools (List.foldl (addVif poolKey group) pools [])
          if ([] : List Vif) = [] then recordUpdate poolKey group lastUpdate else pure ())
          world).2.poolSize poolKey = world.poolSize poolKey := by
        unfold World.poolSize
        rw [present]
        rfl
      rw [same] at grown
      exact lt_irrefl _ grown
  | cons vif rest =>
      change ((world.withPools _).updatesOf poolKey).get? group = some date
      rw [World.updatesOf_of_pools rfl, lastUpdate_foldl_addVif,
        ← World.updatesOf_of_pools present]
      exact recorded

theorem fillPool_records {lastUpdate date : Int}
    (recorded : (world.updatesOf poolKey).get? (some securityGroups) = some date)
    (grown : world.poolSize poolKey <
      (exec (fillPool driver options answers poolKey pod subnets securityGroups lastUpdate)
        world).2.poolSize poolKey) :
    ((exec (fillPool driver options answers poolKey pod subnets securityGroups lastUpdate)
      world).2.updatesOf poolKey).get? (some securityGroups) = some date := by
  unfold fillPool at grown ⊢
  obtain ⟨pools, present⟩ := exists_pools_of_grown grown
  rw [exec_bind_of_ok (exec_getPools present)] at grown ⊢
  dsimp only at grown ⊢
  split at grown
  · rename_i low
    rw [if_pos low]
    have kept := requestVifs_keepsPools driver options answers pod poolKey.projectId subnets
      securityGroups (populationSize options (getPoolSize pools poolKey))
    rcases ran : exec (requestVifs driver options answers pod poolKey.projectId subnets
        securityGroups (populationSize options (getPoolSize pools poolKey))) world with
      ⟨outcome, middle⟩
    have samePools : middle.pools = world.pools := by
      have stays := kept world
      rw [ran] at stays
      exact stays
    have sameSize : middle.poolSize poolKey = world.poolSize poolKey := by
      unfold World.poolSize
      rw [samePools]
    have sameUpdates : middle.updatesOf poolKey = world.updatesOf poolKey := by
      unfold World.updatesOf
      rw [samePools]
    cases outcome with
    | error exception =>
        rw [exec_bind_of_error ran, sameSize] at grown
        exact absurd grown (lt_irrefl _)
    | ok vifs =>
        rw [exec_bind_of_ok ran] at grown ⊢
        rw [← sameSize] at grown
        rw [← sameUpdates] at recorded
        exact fileVifs_records recorded grown
  · exact absurd grown (lt_irrefl _)

/-- A population that creates ports has passed the check, and leaves its date. -/
theorem populatePool_records
    (grown : world.poolSize poolKey <
      (exec (populatePool driver options answers now poolKey pod subnets securityGroups)
        world).2.poolSize poolKey) :
    ((exec (populatePool driver options answers now poolKey pod subnets securityGroups)
      world).2.updatesOf poolKey).get? (some securityGroups) = some now := by
  unfold populatePool at grown ⊢
  rw [exec_get_bind] at grown ⊢
  split at grown
  · rename_i recovered
    rw [if_pos recovered]
    unfold populateRecovered at grown ⊢
    obtain ⟨pools, present⟩ := exists_pools_of_grown grown
    rw [exec_bind_of_ok (exec_getPools present)] at grown ⊢
    dsimp only at grown ⊢
    split at grown
    · exact absurd grown (lt_irrefl _)
    · rename_i passed
      rw [if_neg passed]
      have dated : exec (recordUpdate poolKey (some securityGroups) now) world =
          (.ok ⟨⟩, world.withPools
            { pools with
              lastUpdate := pools.lastUpdate.set poolKey
                ((∅ : Dict SgKey Int).set (some securityGroups) now) }) := by
        unfold recordUpdate
        rw [exec_changePools, present]
      have sameSize : (world.withPools
          { pools with
            lastUpdate := pools.lastUpdate.set poolKey
              ((∅ : Dict SgKey Int).set (some securityGroups) now) }).poolSize poolKey =
          world.poolSize poolKey := by
        unfold World.poolSize
        rw [present]
        rfl
      rw [exec_bind_of_ok dated] at grown ⊢
      rw [← sameSize] at grown
      apply fillPool_records _ grown
      rw [World.updatesOf_of_pools rfl]
      rw [Dict.getD_of_get?_eq_some ∅ (Dict.get?_set_self pools.lastUpdate poolKey _)]
      exact Dict.get?_set_self ∅ (some securityGroups) now
  · exact absurd grown (lt_irrefl _)

end

/-! ## Runs -/

/-- A bulk creation: `request_vifs` returned ports for a pool. -/
structure Creation where
  time : Int
  poolKey : PoolKey
  securityGroups : List String
  deriving DecidableEq

/-- A run with the time of the last population and the creations so far, newest first. -/
structure Timed where
  state : State
  clock : Int := 0
  creations : List Creation := []

section

variable (driver : Driver) (options : Options)

/-- One action.  Populations come at times that do not decrease; one creates ports where its
pool holds more ports afterwards. -/
def timedStep : Step Timed Action
  | timed, .populatePool answers now poolKey pod subnets securityGroups =>
      if timed.clock ≤ now then
        (step driver options timed.state
          (.populatePool answers now poolKey pod subnets securityGroups)).map fun next =>
            { state := next
              clock := now
              creations :=
                if timed.state.world.poolSize poolKey < next.world.poolSize poolKey then
                  ⟨now, poolKey, securityGroups⟩ :: timed.creations
                else
                  timed.creations }
      else
        none
  | timed, action =>
      (step driver options timed.state action).map fun next => { timed with state := next }

/-- All dates of a pool are older than the update frequency. -/
def Timed.PoolDue (timed : Timed) (poolKey : PoolKey) : Prop :=
  ∀ update ∈ (timed.state.world.updatesOf poolKey).items,
    update.2 + options.portsPoolUpdateFrequency ≤ timed.clock

instance (timed : Timed) (poolKey : PoolKey) : Decidable (timed.PoolDue options poolKey) :=
  inferInstanceAs (Decidable (∀ update ∈ (timed.state.world.updatesOf poolKey).items, _))

/-- No date is lost that is younger than the update frequency: a population finds no such date
of other groups of its pool, and the dates that are reset or forgotten are older. -/
def DatesDue (timed : Timed) : Action → Prop
  | .populatePool _ now poolKey _ _ securityGroups =>
      ∀ update ∈ (timed.state.world.updatesOf poolKey).items,
        update.1 ≠ some securityGroups →
          update.2 + options.portsPoolUpdateFrequency ≤ now
  | .removeSgFromPools _ sgId netId =>
      ∀ pools ∈ timed.state.world.pools, ∀ poolKey ∈ pools.availablePortsPools.keys,
        pools.ListsGroup poolKey sgId netId → timed.PoolDue options poolKey
  | .restart | .syncPools =>
      ∀ pools ∈ timed.state.world.pools, ∀ poolKey ∈ pools.lastUpdate.keys,
        timed.PoolDue options poolKey
  | _ => True

instance (timed : Timed) (action : Action) : Decidable (DatesDue options timed action) :=
  match action with
  | .populatePool _ _ poolKey _ _ _ =>
      inferInstanceAs (Decidable (∀ update ∈ (timed.state.world.updatesOf poolKey).items, _))
  | .removeSgFromPools .. | .restart | .syncPools =>
      inferInstanceAs (Decidable (∀ pools ∈ timed.state.world.pools, _))
  | .requestVif .. | .releaseVif .. | .triggerReturnToPool .. | .recoverPools ..
  | .updateVifSgs .. | .changePort .. => .isTrue trivial

end

/-- A creation that is younger than the update frequency has left its date. -/
structure Timed.Dated (options : Options) (timed : Timed) : Prop where
  dates : ∀ creation ∈ timed.creations,
    timed.clock < creation.time + options.portsPoolUpdateFrequency →
    ∃ date, (timed.state.world.updatesOf creation.poolKey).get?
      (some creation.securityGroups) = some date ∧ creation.time ≤ date
  spaced : timed.creations.Pairwise fun later earlier =>
    later.poolKey = earlier.poolKey → later.securityGroups = earlier.securityGroups →
      earlier.time + options.portsPoolUpdateFrequency ≤ later.time

section

variable {driver : Driver} {options : Options} {timed : Timed} {next : State}

/-- The dates stay where an action keeps the dates of all pools that have young ones. -/
theorem Timed.Dated.of_keeps (dated : timed.Dated options)
    (keeps : ∀ poolKey, next.world.updatesOf poolKey = timed.state.world.updatesOf poolKey ∨
      timed.PoolDue options poolKey) :
    Timed.Dated options { timed with state := next } := by
  constructor
  · intro creation listed young
    rcases dated.dates creation listed young with ⟨date, recorded, after⟩
    rcases keeps creation.poolKey with same | old
    · refine ⟨date, ?_, after⟩
      change (next.world.updatesOf creation.poolKey).get? _ = some date
      rw [same]
      exact recorded
    · have due := old _ (Dict.mem_items_iff.mpr recorded)
      have youngHere : timed.clock < creation.time + options.portsPoolUpdateFrequency := young
      omega
  · exact dated.spaced

/-- A population that creates ports comes after the update frequency, and leaves its date; one
for other groups comes after it as well. -/
theorem populated_dated {answers : Answers} {now : Int} {poolKey : PoolKey} {pod : Pod}
    {subnets : Dict String Network} {securityGroups : List String} {after : Timed}
    (due : DatesDue options timed
      (.populatePool answers now poolKey pod subnets securityGroups))
    (dated : timed.Dated options)
    (taken : timedStep driver options timed
      (.populatePool answers now poolKey pod subnets securityGroups) = some after) :
    after.Dated options := by
  change (if timed.clock ≤ now then _ else none) = some after at taken
  split at taken
  · rename_i later
    rcases Option.map_eq_some_iff.mp taken with ⟨next, stepped, same⟩
    cases same
    change (if timed.state.givesOut answers.newPortIds then _ else none) = some next at stepped
    split at stepped
    · cases stepped
      -- what is young keeps its date, and is not created again
      have kept (creation : Creation) (listed : creation ∈ timed.creations)
          (young : now < creation.time + options.portsPoolUpdateFrequency) :
          ∃ date, ((exec (populatePool driver options answers now poolKey pod subnets
              securityGroups) timed.state.world).2.updatesOf creation.poolKey).get?
                (some creation.securityGroups) = some date ∧ creation.time ≤ date := by
        rcases dated.dates creation listed (lt_of_le_of_lt later young) with
          ⟨date, recorded, after⟩
        refine ⟨date, ?_, after⟩
        by_cases samePool : poolKey = creation.poolKey
        · subst samePool
          by_cases sameGroups : creation.securityGroups = securityGroups
          · rw [sameGroups] at recorded ⊢
            rw [populatePool_of_recent recorded (by omega)]
            exact recorded
          · have old := due _ (Dict.mem_items_iff.mpr recorded)
              fun same => sameGroups (Option.some.inj same)
            omega
        · have same : (exec (populatePool driver options answers now poolKey pod subnets
              securityGroups) timed.state.world).2.updatesOf creation.poolKey =
              timed.state.world.updatesOf creation.poolKey :=
            populatePool_keepsUpdates driver options answers now samePool pod subnets
              securityGroups timed.state.world
          rw [same]
          exact recorded
      constructor
      · intro creation listed young
        dsimp only at listed
        split at listed
        · rename_i grown
          rcases List.mem_cons.mp listed with rfl | before
          · exact ⟨now, populatePool_records grown, le_refl now⟩
          · exact kept creation before young
        · exact kept creation listed young
      · dsimp only
        split
        · rename_i grown
          apply List.Pairwise.cons _ dated.spaced
          intro earlier listed samePool sameGroups
          by_contra early
          have young := not_le.mp early
          rcases dated.dates earlier listed (lt_of_le_of_lt later young) with
            ⟨date, recorded, after⟩
          dsimp only at samePool sameGroups young
          rw [← samePool, ← sameGroups] at recorded
          rw [populatePool_of_recent recorded (by omega)] at grown
          exact lt_irrefl _ grown
        · exact dated.spaced
    · cases stepped
  · cases taken

/-- All dates that are forgotten are old. -/
theorem poolDue_of_forgotten
    (due : ∀ pools ∈ timed.state.world.pools, ∀ poolKey ∈ pools.lastUpdate.keys,
      timed.PoolDue options poolKey) (poolKey : PoolKey) : timed.PoolDue options poolKey := by
  rintro ⟨group, date⟩ listed
  have recorded := Dict.mem_items_iff.mp listed
  cases present : timed.state.world.pools with
  | none =>
      unfold World.updatesOf at recorded
      rw [present] at recorded
      cases recorded
  | some pools =>
      rw [World.updatesOf_of_pools present] at recorded
      have member : poolKey ∈ pools.lastUpdate.keys := by
        rw [Dict.mem_keys_iff]
        by_contra unknown
        have none_ := Dict.not_mem_iff_get?_eq_none.mp unknown
        rw [Dict.getD_of_get?_eq_none ∅ none_] at recorded
        cases recorded
      exact due pools present poolKey member (group, date) listed

theorem dated_preserved :
    PreservedBy (timedStep driver options) (DatesDue options) (Timed.Dated options) := by
  intro timed action after due dated taken
  cases action with
  | populatePool answers now poolKey pod subnets securityGroups =>
      exact populated_dated due dated taken
  | requestVif answers pod projectId subnets securityGroups =>
      cases taken
      apply dated.of_keeps
      intro poolKey
      left
      exact requestVif_keepsUpdates driver options answers pod projectId subnets securityGroups
        timed.state.world
  | releaseVif answers pod vif projectId =>
      cases taken
      apply dated.of_keeps
      intro poolKey
      left
      exact releaseVif_keepsUpdates driver answers pod vif projectId timed.state.world
  | triggerReturnToPool answers =>
      cases taken
      apply dated.of_keeps
      intro poolKey
      left
      exact triggerReturnToPool_keepsUpdates driver options answers timed.state.world
  | restart =>
      cases taken
      apply dated.of_keeps
      intro poolKey
      right
      exact poolDue_of_forgotten due poolKey
  | syncPools =>
      cases taken
      apply dated.of_keeps
      intro poolKey
      right
      exact poolDue_of_forgotten due poolKey
  | recoverPools answers =>
      cases taken
      apply dated.of_keeps
      intro poolKey
      left
      exact recoverPools_keepsUpdates driver options answers timed.state.world
  | removeSgFromPools answers sgId netId =>
      cases taken
      apply dated.of_keeps
      intro poolKey
      by_cases listed : ∃ pools ∈ timed.state.world.pools, pools.ListsGroup poolKey sgId netId
      · right
        rcases listed with ⟨pools, present, lists⟩
        rcases lists with ⟨sameNet, poolPorts, known, named⟩
        have member : poolKey ∈ pools.availablePortsPools.keys :=
          Dict.mem_keys_iff.mpr (Dict.mem_iff_exists_get?.mpr ⟨poolPorts, known⟩)
        exact due pools present poolKey member ⟨sameNet, poolPorts, known, named⟩
      · left
        apply removeSgFromPools_keepsUpdates
        intro pools present lists
        exact listed ⟨pools, present, lists⟩
  | updateVifSgs answers pod securityGroups =>
      cases taken
      apply dated.of_keeps
      intro poolKey
      left
      exact updateVifSgs_keepsUpdates answers pod securityGroups timed.state.world
  | changePort port record =>
      cases taken
      apply dated.of_keeps
      intro poolKey
      left
      rfl

/-- Where no young date is lost, creations for the same pool and the same groups are never less
than the update frequency apart. -/
theorem creations_spaced {start final : Timed} {actions : List Action}
    (run : GuardedRun (timedStep driver options) (DatesDue options) start actions final)
    (none_ : start.creations = []) :
    final.creations.Pairwise fun later earlier =>
      later.poolKey = earlier.poolKey → later.securityGroups = earlier.securityGroups →
        earlier.time + options.portsPoolUpdateFrequency ≤ later.time := by
  have initially : start.Dated options := by
    constructor
    · rw [none_]
      rintro creation ⟨⟩
    · rw [none_]
      exact List.Pairwise.nil
  exact (run.invariant dated_preserved initially).spaced

end

/-- Ports are created for one group, and again when the update frequency is over. -/
def pacedPopulations : List Action :=
  [.syncPools, .recoverPools {},
    .populatePool { newPortIds := ["first"] } 100 ⟨"node", "project", some "network"⟩
      (scheduledPod "a") oneSubnet ["group"],
    .requestVif {} (scheduledPod "a") "project" oneSubnet ["group"],
    .populatePool { newPortIds := ["second"] } 119 ⟨"node", "project", some "network"⟩
      (scheduledPod "a") oneSubnet ["group"],
    .populatePool { newPortIds := ["second"] } 120 ⟨"node", "project", some "network"⟩
      (scheduledPod "a") oneSubnet ["group"]]

theorem pacedPopulations_spaced :
    ∃ final : Timed, final.creations.map Creation.time = [120, 100] ∧
      final.creations.Pairwise fun later earlier =>
        later.poolKey = earlier.poolKey → later.securityGroups = earlier.securityGroups →
          earlier.time + onePort.portsPoolUpdateFrequency ≤ later.time := by
  have executed : ((runIf (timedStep .neutron onePort) (DatesDue onePort) pacedPopulations
      { state := initial ∅ }).map fun final => final.creations.map Creation.time) =
        some [120, 100] := by decide +kernel
  rcases Option.map_eq_some_iff.mp executed with ⟨final, reached, times⟩
  exact ⟨final, times, creations_spaced (guardedRun_of_runIf reached) rfl⟩

/-- A port is created for one group and handed out, another group of the same pool follows a
second later, and the first group again a second after that. -/
def mixedPopulations : List Action :=
  [.syncPools, .recoverPools {},
    .populatePool { newPortIds := ["first"] } 100 ⟨"node", "project", some "network"⟩
      (scheduledPod "a") oneSubnet ["group"],
    .requestVif {} (scheduledPod "a") "project" oneSubnet ["group"],
    .populatePool { newPortIds := ["other"] } 101 ⟨"node", "project", some "network"⟩
      (scheduledPod "b") oneSubnet ["other group"],
    .requestVif {} (scheduledPod "b") "project" oneSubnet ["other group"],
    .populatePool { newPortIds := ["second"] } 102 ⟨"node", "project", some "network"⟩
      (scheduledPod "a") oneSubnet ["group"]]

/-- Two bulk creations for the same group are two seconds apart. -/
theorem mixedPopulations_too_early :
    ∃ (actions : List Action) (final : Timed),
      run (timedStep .neutron onePort) actions { state := initial ∅ } = some final ∧
        ∃ later ∈ final.creations, ∃ earlier ∈ final.creations,
          later.poolKey = earlier.poolKey ∧ later.securityGroups = earlier.securityGroups ∧
            earlier.time < later.time ∧
              later.time < earlier.time + onePort.portsPoolUpdateFrequency := by
  have executed : ((run (timedStep .neutron onePort) mixedPopulations
      { state := initial ∅ }).map Timed.creations) =
        some [⟨102, ⟨"node", "project", some "network"⟩, ["group"]⟩,
          ⟨101, ⟨"node", "project", some "network"⟩, ["other group"]⟩,
          ⟨100, ⟨"node", "project", some "network"⟩, ["group"]⟩] := by decide +kernel
  rcases Option.map_eq_some_iff.mp executed with ⟨final, reached, created⟩
  refine ⟨mixedPopulations, final, reached, ?_⟩
  rw [created]
  decide

end KuryrKubernetes.Pool

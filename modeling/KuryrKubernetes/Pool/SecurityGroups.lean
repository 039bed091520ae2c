import KuryrKubernetes.Pool.Truthful

/-!
# Recycling, recovery and removal keep the groups

Recycling and recovery file a port under the groups it has in Neutron, and a
removed group is taken from its ports before they are filed again, so the pools
stay truthful.
-/

namespace KuryrKubernetes.Pool

open KuryrKubernetes.Data
open KuryrKubernetes.Effect

/-! ## Releasing -/

theorem releaseVifAt_files (defaults : List String) (hostAddr : String) (vif : Vif)
    (projectId : String) (before : World) :
    Files defaults (fun _ => False) before
      (exec (releaseVifAt hostAddr vif projectId) before).2 := by
  rw [releaseVifAt, exec_get_bind]
  cases present : before.pools with
  | none => exact Files.of_listings_eq rfl (allGroupsFrame.refl before)
  | some pools =>
      exact Files.of_listings_eq (World.listings_of_pools present).symm fun _ _ => rfl

theorem releaseVif_files {defaults : List String} (driver : Driver) (answers : Answers)
    (pod : Pod) (vif : Vif) (projectId : String) (before : World) :
    Files defaults (fun _ => False) before
      (exec (releaseVif driver answers pod vif projectId) before).2 := by
  unfold releaseVif
  split
  · exact releaseVifAt_files defaults _ vif projectId before
  · exact Files.of_listings_eq rfl (allGroupsFrame.refl before)
  · split
    · exact Files.of_listings_eq rfl (allGroupsFrame.refl before)
    · exact releaseVifAt_files defaults _ vif projectId before

/-! ## Recycling -/

/-- Lists stay the same, and so do the groups of all but the exempt ports. -/
abbrev quietFrame (exempt : String → Prop) : Frame World :=
  listingsFrame.both (groupsFrame exempt)

theorem Files.of_quiet {defaults : List String} {exempt : String → Prop}
    {before after : World} (quiet : (quietFrame exempt).rel before after) :
    Files defaults exempt before after :=
  Files.of_listings_eq quiet.1 quiet.2

theorem keepsQuiet_of_keepsPools {α : Type} {program : PoolM α} {exempt : String → Prop}
    (pools : poolsFrame.Keeps program) (groups : (groupsFrame exempt).Keeps program) :
    (quietFrame exempt).Keeps program :=
  (keepsListings_of_keepsPools pools).both groups

theorem changePools_keepsQuiet {change : Pools → Pools} (exempt : String → Prop)
    (same : ∀ pools, (change pools).listings = pools.listings) :
    (quietFrame exempt).Keeps (getPools >>= fun pools => setPools (change pools)) :=
  (changePools_keepsListings same).both
    (keepsGroups_of_all (keepsGroups_of_keepsNeutron (changePools_keepsNeutron _)))

theorem deleteExistingVif_keepsQuiet (port : String) (exempt : String → Prop) :
    (quietFrame exempt).Keeps (deleteExistingVif port) := by
  intro world
  cases present : world.pools with
  | none =>
      have unchanged : (exec (deleteExistingVif port) world).2 = world := by
        simp [deleteExistingVif, getPools, present]
      rw [unchanged]
      exact (quietFrame exempt).refl world
  | some pools =>
      rw [deleteExistingVif, exec_bind_of_ok (exec_getPools present)]
      cases pools.existingVifs.dict.get? port with
      | none => exact (quietFrame exempt).refl world
      | some vif =>
          exact ⟨(World.listings_of_pools present).symm, fun _ _ => rfl⟩

theorem deletePort_keepsQuiet (answers : Answers) (port : String) :
    (quietFrame (· = port)).Keeps (deletePort answers port) :=
  keepsQuiet_of_keepsPools (deletePort_keepsPools answers port)
    (deletePort_keepsGroups answers port)

theorem dropRecyclable_keepsQuiet (port : String) (exempt : String → Prop) :
    (quietFrame exempt).Keeps (dropRecyclable port) :=
  changePools_keepsQuiet exempt fun _ => rfl

theorem getTrunkId_keepsNeutron (answers : Answers) (poolKey : PoolKey) :
    neutronFrame.Keeps (getTrunkId answers poolKey) := by
  refine Frame.Keeps.bind Frame.keeps_get fun world => ?_
  cases world.knownTrunkIds.get? poolKey with
  | some trunkId => exact Frame.keeps_pure _
  | none =>
      refine Frame.Keeps.ite (Frame.keeps_throw _) ?_
      cases answers.trunks.parentPorts.find? (·.ip = poolKey.host) with
      | none => exact Frame.keeps_throw _
      | some parent =>
          exact Frame.Keeps.bind (Frame.keeps_modify fun _ => rfl) fun _ =>
            Frame.keeps_pure _

theorem deleteRecyclableNeutron_keepsQuiet (answers : Answers) (port : String) :
    (quietFrame (· = port)).Keeps (deleteRecyclableNeutron answers port) := by
  refine Frame.Keeps.bind ?_ fun _ => dropRecyclable_keepsQuiet port _
  refine Frame.Keeps.tryCatch ?_ fun exception =>
    Frame.Keeps.ite (Frame.keeps_pure _) (Frame.keeps_throw _)
  exact Frame.Keeps.bind (deleteExistingVif_keepsQuiet port _) fun _ =>
    deletePort_keepsQuiet answers port

theorem deleteRecyclableNested_keepsQuiet (answers : Answers) (poolKey : PoolKey)
    (port : String) :
    (quietFrame (· = port)).Keeps (deleteRecyclableNested answers poolKey port) := by
  refine Frame.Keeps.bind (keepsQuiet_of_keepsPools (getTrunkId_keepsPools answers poolKey)
    (keepsGroups_of_all (keepsGroups_of_keepsNeutron
      (getTrunkId_keepsNeutron answers poolKey)))) fun _ => ?_
  refine Frame.Keeps.bind ?_ fun done =>
    Frame.Keeps.ite (dropRecyclable_keepsQuiet port _) (Frame.keeps_pure _)
  refine Frame.Keeps.tryCatch ?_ fun exception =>
    Frame.Keeps.ite (Frame.keeps_pure _)
      (Frame.Keeps.ite (Frame.keeps_pure _) (Frame.keeps_throw _))
  refine Frame.Keeps.bind (callNeutron_keeps _ _ _) fun _ => ?_
  refine Frame.Keeps.bind (deleteExistingVif_keepsQuiet port _) fun _ => ?_
  exact Frame.Keeps.bind (deletePort_keepsQuiet answers port) fun _ => Frame.keeps_pure _

theorem tryRename_keepsQuiet (driver : Driver) (options : Options) (answers : Answers)
    (port : String) (exempt : String → Prop) :
    (quietFrame exempt).Keeps (tryRename driver options answers port) := by
  refine Frame.Keeps.tryCatch (Frame.Keeps.bind ?_ fun _ => Frame.keeps_pure _) fun _ =>
    Frame.Keeps.ite (Frame.keeps_pure _) (Frame.keeps_throw _)
  refine keepsQuiet_of_keepsPools (renameRecyclable_keepsPools driver options answers port)
    (keepsGroups_of_all (Frame.Keeps.ite ?_ (Frame.keeps_pure _)))
  cases driver <;> exact updatePortName_keepsGroups _ _ _ _

theorem returnPort_files {defaults : List String} {poolKey : PoolKey} {group : SgKey}
    {port : String} {world : World}
    (carries : ∀ groups, group = some groups → world.Carries port groups) :
    Files defaults (· = port) world (exec (returnPort poolKey group port) world).2 := by
  rw [exec_returnPort]
  cases present : world.pools with
  | none => exact Files.of_listings_eq rfl ((groupsFrame _).refl world)
  | some pools =>
      refine ⟨fun other id listed => ?_, fun _ _ => rfl⟩
      have filed : (other, id) ∈ (filePort pools poolKey group port).listings := listed
      rcases Pools.mem_listings_filePort filed with ⟨rfl, rfl⟩ | old
      · exact .inr ⟨rfl, fun groups key _ => (carries groups key).of_groupsOf_eq rfl⟩
      · exact .inl ((World.listings_of_pools present).symm ▸ old)

theorem renameThenReturn_files {defaults : List String} (driver : Driver)
    (options : Options) (answers : Answers) {poolKey : PoolKey} {group : SgKey}
    {port : String} {world : World}
    (carries : ∀ groups, group = some groups → world.Carries port groups) :
    Files defaults (· = port) world
      (exec (renameThenReturn driver options answers group port poolKey) world).2 := by
  have renamed := tryRename_keepsQuiet driver options answers port (fun _ => False) world
  rw [renameThenReturn, exec_bind]
  rcases ran : exec (tryRename driver options answers port) world with ⟨outcome, middle⟩
  rw [ran] at renamed
  have kept : (groupsFrame (· = port)).rel world middle := fun other _ =>
    renamed.2 other id
  cases outcome with
  | error exception => exact Files.of_listings_eq renamed.1 kept
  | ok done =>
      cases done with
      | false => exact Files.of_listings_eq renamed.1 kept
      | true =>
          refine Files.after_frames renamed.1 kept (returnPort_files fun groups key => ?_)
          exact (carries groups key).of_groupsOf_eq (renamed.2 port id)

/-- A turn of the recycling loop files its port under the groups it has. -/
theorem recyclePort_files {defaults : List String} (driver : Driver) (options : Options)
    (answers : Answers) {groupOf : String → SgKey} {port : String} (poolKey : PoolKey)
    {world : World}
    (carries : ∀ groups, groupOf port = some groups → world.Carries port groups) :
    Files defaults (· = port) world
      (exec (recyclePort driver options answers groupOf port poolKey) world).2 := by
  cases present : world.pools with
  | none =>
      have unchanged : (exec (recyclePort driver options answers groupOf port poolKey)
          world).2 = world := by simp [recyclePort, getPools, present]
      rw [unchanged]
      exact Files.of_listings_eq rfl ((groupsFrame _).refl world)
  | some pools =>
      simp only [recyclePort]
      rw [exec_bind_of_ok (exec_getPools present)]
      split
      · exact renameThenReturn_files driver options answers carries
      · cases driver with
        | neutron => exact Files.of_quiet (deleteRecyclableNeutron_keepsQuiet answers port world)
        | nested =>
            exact Files.of_quiet
              (deleteRecyclableNested_keepsQuiet answers poolKey port world)

/-- The groups a recyclable port is listed with are those it has. -/
theorem currentGroups_carries {driver : Driver} {options : Options} {pools : Pools}
    {world : World} {port : String} {groups : List String}
    (known : currentGroups driver options pools world.neutron port = some groups) :
    world.Carries port groups := by
  unfold currentGroups at known
  split at known
  · cases known
  · cases found : world.neutron.get? port with
    | none => simp [found] at known
    | some record =>
        simp only [found, Option.ite_none_right_eq_some] at known
        refine ⟨record.securityGroupIds, by simp [World.groupsOf, found], fun group => ?_⟩
        exact (mem_of_sortedGroups known.2 group).symm

theorem triggerReturnToPool_truthful {defaults : List String} (driver : Driver)
    (options : Options) (answers : Answers) {before : World}
    (truthful : Truthful defaults before) (once : ∀ port, before.pooled port ≤ 1) :
    Truthful defaults (exec (triggerReturnToPool driver options answers) before).2 := by
  cases present : before.pools with
  | none =>
      have unchanged : (exec (triggerReturnToPool driver options answers) before).2 =
          before := by simp [triggerReturnToPool, present]
      rw [unchanged]
      exact truthful
  | some pools =>
      have loop : exec (triggerReturnToPool driver options answers) before =
          exec (pools.recyclablePorts.items.forM fun item =>
            recyclePort driver options answers
              (currentGroups driver options pools before.neutron) item.1 item.2) before := by
        simp [triggerReturnToPool, present]
      rw [loop]
      refine Truthful.forM Prod.fst (fun item => before.groupsOf item.1)
        (fun item _ world same => ?_) truthful pools.recyclablePorts.nodupKeys
        (fun item member => ?_) fun item _ => rfl
      · exact recyclePort_files driver options answers item.2 fun groups known =>
          (currentGroups_carries known).of_groupsOf_eq same
      · refine World.unlisted_of_available ?_
        have bounded := once item.1
        have waits : before.recycling item.1 = 1 := by
          rw [World.recycling_of_pools present, Pools.recycling,
            if_pos (Dict.mem_of_mem_items member)]
        rw [World.pooled] at bounded
        omega

/-! ## Start-up -/

/-- The ports that wait for recycling. -/
def World.waiting (world : World) : List String :=
  world.pools.elim [] fun pools => pools.recyclablePorts.keys

/-- The pools hold no port and no port waits, as after `sync_pools`. -/
def World.Emptied (world : World) : Prop :=
  world.listings = [] ∧ world.waiting = []

instance (world : World) : Decidable world.Emptied :=
  inferInstanceAs (Decidable (_ ∧ _))

theorem World.Emptied.unlisted {world : World} (empty : world.Emptied) (port : String) :
    world.Unlisted port := by
  intro group listed
  rw [empty.1] at listed
  cases listed

theorem World.Emptied.pooled_eq_zero {world : World} (empty : world.Emptied)
    (port : String) : world.pooled port = 0 := by
  cases present : world.pools with
  | none => simp [World.pooled, World.available, World.recycling, present]
  | some pools =>
      have noKeys := empty.2
      simp only [World.waiting, present, Option.elim] at noKeys
      have available : pools.available port = 0 := by
        by_contra positive
        obtain ⟨poolKey, poolPorts, group, ports, found⟩ :=
          Pools.available_pos_iff.mp (Nat.pos_of_ne_zero positive)
        refine empty.unlisted port group ?_
        rw [World.listings_of_pools present]
        exact Pools.mem_listings.mpr ⟨poolKey, poolPorts, ports, found⟩
      have recycling : pools.recycling port = 0 := by
        rw [Pools.recycling, if_neg]
        intro waits
        obtain ⟨poolKey, found⟩ := Dict.mem_iff_exists_get?.mp waits
        have member := List.mem_map_of_mem (f := Prod.fst) (Dict.mem_items_iff.mpr found)
        change port ∈ pools.recyclablePorts.keys at member
        rw [noKeys] at member
        cases member
      rw [World.pooled, World.available_of_pools present, World.recycling_of_pools present,
        available, recycling]

/-- A program that files one port under a key whose groups it carries. -/
theorem changePools_files {defaults : List String} {change : Pools → Pools}
    {group : SgKey} {port : String} {world : World}
    (listed : ∀ pools other id, (other, id) ∈ (change pools).listings →
      (other = group ∧ id = port) ∨ (other, id) ∈ pools.listings)
    (carries : ∀ groups, group = some groups → world.Carries port groups) :
    Files defaults (· = port) world
      (exec (getPools >>= fun pools => setPools (change pools)) world).2 := by
  rw [exec_changePools]
  cases present : world.pools with
  | none => exact Files.of_listings_eq rfl ((groupsFrame _).refl world)
  | some pools =>
      refine ⟨fun other id member => ?_, fun _ _ => rfl⟩
      rcases listed pools other id member with ⟨rfl, rfl⟩ | old
      · exact .inr ⟨rfl, fun groups key _ => (carries groups key).of_groupsOf_eq rfl⟩
      · exact .inl ((World.listings_of_pools present).symm ▸ old)

theorem addVif_files {defaults : List String} {poolKey : PoolKey} {group : SgKey}
    (vif : Vif) {world : World}
    (carries : ∀ groups, group = some groups → world.Carries vif.id groups) :
    Files defaults (· = vif.id) world
      (exec (getPools >>= fun pools => setPools (addVif poolKey group pools vif))
        world).2 :=
  changePools_files (fun _ _ _ => Pools.mem_listings_filePort) carries

theorem carries_sortedGroups {world : World} {port : String} {current groups : List String}
    (known : world.groupsOf port = some current)
    (key : sortedGroups current = some groups) : world.Carries port groups :=
  ⟨current, known, fun group => (mem_of_sortedGroups key group).symm⟩

theorem recoverPort_files {defaults : List String} {answers : Answers} {world : World}
    {item : String × NeutronPort}
    (known : world.groupsOf item.1 = some item.2.securityGroupIds) :
    Files defaults (· = item.1) world (exec (recoverPort answers item.1 item.2) world).2 := by
  rcases item with ⟨port, record⟩
  cases vifType : record.bindingVifType with
  | none =>
      simp only [recoverPort, vifType]
      exact Files.of_quiet (deletePort_keepsQuiet answers port world)
  | some value =>
      cases host : record.bindingHostId with
      | none =>
          simp only [recoverPort, vifType, host]
          exact Files.of_quiet (deletePort_keepsQuiet answers port world)
      | some hostAddr =>
          simp only [recoverPort, vifType, host]
          exact addVif_files ⟨port, _, _, _, _, _⟩ fun _ =>
            carries_sortedGroups known

theorem recoverNeutron_truthful {defaults : List String} {options : Options}
    {answers : Answers} {before : World} (truthful : Truthful defaults before)
    (empty : before.Emptied) :
    Truthful defaults (exec (recoverPrecreatedPortsNeutron options answers) before).2 := by
  rw [recoverPrecreatedPortsNeutron, exec_get_bind]
  have known (item : String × NeutronPort)
      (member : item ∈ recoverablePorts options answers before.neutron) :
      before.groupsOf item.1 = some item.2.securityGroupIds := by
    have stored := Dict.mem_items_iff.mp (List.mem_of_mem_filter member)
    simp [World.groupsOf, stored]
  refine Truthful.forM Prod.fst (fun item => some item.2.securityGroupIds)
    (fun item _ world same => recoverPort_files same) truthful ?_
    (fun item _ => empty.unlisted item.1) known
  exact before.neutron.nodupKeys.sublist (List.filter_sublist.map Prod.fst)

theorem recoverSubport_files {defaults : List String} {answers : Answers}
    {available : Dict String NeutronPort} {hostAddr : String} {subport : String × Nat}
    {world : World}
    (known : ∀ record, available.get? subport.1 = some record →
      world.groupsOf subport.1 = some record.securityGroupIds) :
    Files defaults (· = subport.1) world
      (exec (recoverSubport answers available hostAddr subport) world).2 := by
  cases found : available.get? subport.1 with
  | none =>
      simp only [recoverSubport, found]
      exact Files.of_listings_eq rfl ((groupsFrame _).refl world)
  | some record =>
      simp only [recoverSubport, found]
      exact addVif_files ⟨subport.1, _, _, _, _, _⟩ fun _ =>
        carries_sortedGroups (known record found)

theorem tryDeletePort_keepsQuiet (answers : Answers) (port : String) :
    (quietFrame (· = port)).Keeps (tryDeletePort answers port) :=
  Frame.Keeps.tryCatch (deletePort_keepsQuiet answers port) fun _ =>
    Frame.Keeps.ite (Frame.keeps_throw _) (Frame.keeps_pure _)

/-- Deleting ports changes nothing about the others. -/
theorem deletePorts_keepsQuiet {answers : Answers} {ports : List String}
    {exempt : String → Prop} (exempted : ∀ port ∈ ports, exempt port) :
    (quietFrame exempt).Keeps (ports.forM (tryDeletePort answers)) :=
  Frame.Keeps.forM fun port member =>
    (tryDeletePort_keepsQuiet answers port).mono fun _ _ quiet =>
      ⟨quiet.1, fun other outside => quiet.2 other fun same =>
        outside (same ▸ exempted port member)⟩

theorem availableSubports_groups {options : Options} {answers : Answers} {world : World}
    {port : String} {record : NeutronPort}
    (found : (availableSubports options answers world.neutron).get? port = some record) :
    world.groupsOf port = some record.securityGroupIds := by
  have stored := Dict.mem_items_iff.mp (List.mem_of_mem_filter (Dict.mem_of_get?_ofList found))
  simp [World.groupsOf, stored]

theorem recoverNested_truthful {defaults : List String} {options : Options}
    {answers : Answers} {before : World} (truthful : Truthful defaults before)
    (empty : before.Emptied) :
    Truthful defaults (exec (recoverPrecreatedPortsNested options answers) before).2 := by
  have deletion : (quietFrame (· ∉ answers.trunks.subPortIds)).Keeps
      (((availableSubports options answers before.neutron).keys.filter
        (· ∉ answers.trunks.subPortIds)).forM (tryDeletePort answers)) :=
    deletePorts_keepsQuiet fun port member => by simpa using (List.mem_filter.mp member).2
  have deleted := deletion before
  rw [recoverPrecreatedPortsNested, exec_get_bind]
  simp only
  rw [exec_bind]
  rcases ran : exec (((availableSubports options answers before.neutron).keys.filter
    (· ∉ answers.trunks.subPortIds)).forM (tryDeletePort answers)) before with
    ⟨outcome, middle⟩
  rw [ran] at deleted
  have truthfulMiddle : Truthful defaults middle :=
    truthful.files (Files.of_quiet deleted) fun port _ => empty.unlisted port
  cases outcome with
  | error exception => exact truthfulMiddle
  | ok value =>
      simp only
      rw [forM_flatMap_map_eq]
      refine Truthful.forM (fun item => item.2.1) (fun item => middle.groupsOf item.2.1)
        (fun item member world same => recoverSubport_files fun record found => ?_)
        truthfulMiddle ?_ (fun item _ => ?_) fun item _ => rfl
      · have attached : item.2.1 ∈ answers.trunks.subPortIds := by
          obtain ⟨parent, trunk, pair⟩ := List.mem_flatMap.mp member
          obtain ⟨subport, listed, rfl⟩ := List.mem_map.mp pair
          exact List.mem_map_of_mem (List.mem_flatMap.mpr ⟨parent, trunk, listed⟩)
        rw [same, deleted.2 _ (not_not_intro attached), availableSubports_groups found]
      · have flat : (answers.trunks.parentPorts.flatMap fun parent =>
            parent.subPorts.map fun subport => (parent, subport)).map (fun item => item.2.1) =
            answers.trunks.subPortIds := by
          simp only [Trunks.subPortIds, List.map_flatMap, List.map_map]
          rfl
        rw [flat]
        exact answers.trunks.subPortsNodup
      · intro group listed
        rw [deleted.1] at listed
        exact empty.unlisted _ group listed

theorem recoverPools_truthful {defaults : List String} (driver : Driver)
    {options : Options} {answers : Answers} {before : World}
    (truthful : Truthful defaults before) (empty : before.Emptied) :
    Truthful defaults (exec (recoverPools driver options answers) before).2 := by
  have recovered : Truthful defaults
      (exec (recoverPrecreatedPorts driver options answers) before).2 := by
    cases driver with
    | neutron => exact recoverNeutron_truthful truthful empty
    | nested => exact recoverNested_truthful truthful empty
  rw [recoverPools, exec_bind]
  rcases ran : exec (recoverPrecreatedPorts driver options answers) before with
    ⟨outcome, middle⟩
  rw [ran] at recovered
  cases outcome with
  | error exception => exact recovered
  | ok value => exact recovered

/-! ## Removing a security group -/

theorem clearPort_files {defaults : List String} {answers : Answers} {poolKey : PoolKey}
    {port : String} {world : World} :
    Files defaults (· = port) world (exec (clearPort answers poolKey port) world).2 := by
  have quiet := keepsQuiet_of_keepsPools (updatePortGroups_keepsPools answers port [])
    (updatePortGroups_keepsGroups answers port []) world
  rw [clearPort, exec_bind]
  rcases ran : exec (updatePortGroups answers port []) world with ⟨outcome, middle⟩
  rw [ran] at quiet
  cases outcome with
  | error exception => exact Files.of_quiet quiet
  | ok value =>
      have carries (groups : List String) (key : some [] = some groups) :
          middle.Carries port groups := by
        cases key
        exact ⟨[], updatePortGroups_ok ran, fun _ => Iff.rfl⟩
      exact Files.after_frames quiet.1 quiet.2
        (changePools_files (fun _ _ _ => Pools.mem_listings_filePort) carries)

/-- Unlisted ports are cleared one by one. -/
theorem clearPorts_truthful {defaults : List String} {answers : Answers}
    {poolKey : PoolKey} {ports : List String} {world : World}
    (truthful : Truthful defaults world) (distinct : ports.Nodup)
    (unlisted : ∀ port ∈ ports, world.Unlisted port) :
    Truthful defaults (exec (do
      ports.forM (clearPort answers poolKey)
      recordUpdate poolKey (some []) 0) world).2 := by
  have cleared : Truthful defaults
      (exec (ports.forM (clearPort answers poolKey)) world).2 :=
    Truthful.forM (fun port => port) world.groupsOf (fun _ _ _ _ => clearPort_files)
      truthful (by rwa [List.map_id']) unlisted fun _ _ => rfl
  rw [exec_bind]
  rcases ran : exec (ports.forM (clearPort answers poolKey)) world with ⟨outcome, middle⟩
  rw [ran] at cleared
  cases outcome with
  | error exception => exact cleared
  | ok value =>
      have files : Files defaults (fun _ => False) middle
          (exec (recordUpdate poolKey (some []) 0) middle).2 :=
        Files.of_listings_eq (recordUpdate_keepsListings _ _ _ middle)
          (recordUpdate_keepsGroups _ _ _ middle)
      exact cleared.files files fun _ => False.elim

theorem removeGroup_truthful {defaults : List String} {answers : Answers}
    {poolKey : PoolKey} {group : SgKey} {before : World}
    (truthful : Truthful defaults before) (once : ∀ port, before.available port ≤ 1) :
    Truthful defaults (exec (removeGroup answers poolKey group) before).2 := by
  cases present : before.pools with
  | none =>
      have unchanged : (exec (removeGroup answers poolKey group) before).2 = before := by
        simp [removeGroup, getPools, present]
      rw [unchanged]
      exact truthful
  | some pools =>
      rw [removeGroup, exec_bind_of_ok (exec_getPools present)]
      cases list : (pools.availablePortsPools.getD poolKey ∅).get? group with
      | none =>
          simp only
          exact truthful
      | some ports =>
          simp only [setPools]
          rw [exec_modify_bind]
          have bounded (port : String) : pools.available port ≤ 1 :=
            World.available_of_pools present port ▸ once port
          have distinct : ports.Nodup := by
            refine List.nodup_iff_count_le_one.mpr fun port => ?_
            have accounted := available_eraseGroup list port
            have single := bounded port
            omega
          have unlisted (port : String) (member : port ∈ ports) :
              (before.withPools (pools.eraseGroup poolKey group)).Unlisted port := by
            refine World.unlisted_of_available ?_
            have accounted := available_eraseGroup list port
            have single := bounded port
            have counted := List.count_pos_iff.mpr member
            rw [World.available_of_pools rfl]
            omega
          have erased : Truthful defaults
              (before.withPools (pools.eraseGroup poolKey group)) := by
            intro groups port listed promised
            have old := Pools.mem_listings_eraseGroup listed
            exact truthful groups port ((World.listings_of_pools present).symm ▸ old) promised
          exact clearPorts_truthful erased distinct unlisted

/-- Truthful pools without repetitions are not lost. -/
abbrev truthfulFrame (defaults : List String) : Frame World :=
  Frame.stable fun world => Truthful defaults world ∧ ∀ port, world.available port ≤ 1

theorem removeSgFromGroup_keepsTruthful (defaults : List String) (answers : Answers)
    (sgId : String) (poolKey : PoolKey) (group : SgKey) :
    (truthfulFrame defaults).Keeps (removeSgFromGroup answers sgId poolKey group) := by
  cases group with
  | none => exact Frame.keeps_throw _
  | some groups =>
      refine Frame.Keeps.ite ?_ (Frame.keeps_pure _)
      rintro world ⟨truthful, once⟩
      refine ⟨removeGroup_truthful truthful once, fun port => ?_⟩
      exact (removeGroup_gains answers poolKey (some groups) world port).available.trans
        (once port)

theorem removeSgFromPools_truthful {defaults : List String} (answers : Answers)
    (sgId netId : String) {before : World} (truthful : Truthful defaults before)
    (once : ∀ port, before.available port ≤ 1) :
    Truthful defaults (exec (removeSgFromPools answers sgId netId) before).2 := by
  have kept : (truthfulFrame defaults).Keeps (removeSgFromPools answers sgId netId) := by
    refine Frame.Keeps.bind (getPools_keeps _) fun pools => ?_
    refine Frame.Keeps.forM fun pool _ => ?_
    refine Frame.Keeps.ite (Frame.Keeps.forM fun group _ => ?_) (Frame.keeps_pure _)
    exact removeSgFromGroup_keepsTruthful defaults answers sgId pool.1 group
  exact (kept before ⟨truthful, once⟩).1

end KuryrKubernetes.Pool

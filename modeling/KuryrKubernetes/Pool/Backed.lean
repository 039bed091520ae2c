import KuryrKubernetes.Pool.NestedPool
import KuryrKubernetes.Pool.Truthful

/-!
# Pooled ports have a VIF and exist

A port of the pools is backed when `_existing_vifs` has an entry for it and Neutron has the
port.  This file follows both through the methods that the nested driver shares with the other
one: what they file is backed, and what they do not delete stays so.
-/

namespace KuryrKubernetes.Pool

open KuryrKubernetes.Data
open KuryrKubernetes.Effect
open KuryrKubernetes.Transition

/-! ## Backed ports -/

/-- `_existing_vifs` has an entry for the port. -/
def World.Knows (world : World) (port : String) : Prop :=
  ∃ pools, world.pools = some pools ∧ port ∈ pools.existingVifs.dict

/-- The port has a VIF and exists in Neutron. -/
structure World.Backed (world : World) (port : String) : Prop where
  vif : world.Knows port
  inNeutron : port ∈ world.neutron

/-- Ports are pooled once, as available or as recyclable, and are backed. -/
structure World.Sound (world : World) : Prop where
  once : ∀ port, world.pooled port ≤ 1
  backed : ∀ port, 0 < world.pooled port → world.Backed port

section

variable {world before after : World} {pools : Pools} {port : String}

theorem World.knows_of_pools (present : world.pools = some pools) :
    world.Knows port ↔ port ∈ pools.existingVifs.dict := by
  constructor
  · rintro ⟨known, same, member⟩
    rw [present] at same
    cases same
    exact member
  · intro member
    exact ⟨pools, present, member⟩

theorem World.Knows.of_pools_eq (knows : before.Knows port)
    (same : after.pools = before.pools) : after.Knows port := by
  rcases knows with ⟨pools, present, member⟩
  exact ⟨pools, same.trans present, member⟩

theorem World.mem_neutron_iff : port ∈ world.neutron ↔ world.groupsOf port ≠ none := by
  rw [World.groupsOf, ne_eq, Option.map_eq_none_iff, ← Dict.not_mem_iff_get?_eq_none, not_not]

/-- A world with fewer pooled ports, which are backed as before. -/
theorem World.Sound.of_fewer (sound : before.Sound)
    (fewer : ∀ port, after.pooled port ≤ before.pooled port)
    (backed : ∀ port, 0 < after.pooled port → before.Backed port → after.Backed port) :
    after.Sound := by
  constructor
  · intro port
    exact (fewer port).trans (sound.once port)
  · intro port pooled
    exact backed port pooled (sound.backed port (pooled.trans_le (fewer port)))

theorem World.pooled_eq (available : after.available port = before.available port)
    (recycling : after.recycling port = before.recycling port) :
    after.pooled port = before.pooled port := by
  rw [World.pooled, available, recycling, World.pooled]

end

/-- A port stays backed. -/
abbrev backedFrame (port : String) : Frame World :=
  Frame.stable (World.Backed · port)

/-- A program that changes no counter and unbacks no port. -/
theorem World.Sound.keeps {α : Type} {program : PoolM α} {before : World} (sound : before.Sound)
    (counters : ∀ port, (countersFrame port).Keeps program)
    (backed : ∀ port, (backedFrame port).Keeps program) : (exec program before).2.Sound := by
  have same (port : String) : (exec program before).2.pooled port = before.pooled port := by
    rcases Prod.ext_iff.mp (counters port before) with ⟨available, recycling⟩
    exact World.pooled_eq available recycling
  exact sound.of_fewer (fun port => (same port).le) fun port _ => backed port before

/-! ## Operations that delete nothing -/

/-- A port does not disappear from Neutron. -/
abbrev existsFrame (port : String) : Frame World :=
  Frame.stable fun world => port ∈ world.neutron

section

variable {α : Type} {program : PoolM α} {port : String}

theorem keepsBacked_of_keepsPools (pools : poolsFrame.Keeps program)
    (neutron : (existsFrame port).Keeps program) : (backedFrame port).Keeps program := by
  intro world backed
  exact ⟨backed.vif.of_pools_eq (pools world), neutron world backed.inNeutron⟩

theorem keepsExists_of_keepsNeutron (neutron : neutronFrame.Keeps program) :
    (existsFrame port).Keeps program := by
  intro world member
  have same : (exec program world).2.neutron = world.neutron := neutron world
  rw [same]
  exact member

/-- A port whose groups stay the same does not disappear. -/
theorem keepsExists_of_keepsGroups {exempt : String → Prop}
    (groups : (groupsFrame exempt).Keeps program) (other : ¬exempt port) :
    (existsFrame port).Keeps program := by
  intro world member
  rw [World.mem_neutron_iff] at member ⊢
  rw [groups world port other]
  exact member

theorem updatePortGroups_keepsExists (answers : Answers) (updated : String)
    (groups : List String) : (existsFrame port).Keeps (updatePortGroups answers updated groups) := by
  apply Frame.Keeps.bind (callNeutron_keeps _ _ _)
  intro _ world member
  rw [exec_get_bind]
  cases world.neutron.get? updated with
  | none => exact member
  | some record => exact Dict.mem_set.mpr (.inr member)

theorem updatePortName_keepsExists (answers : Answers) (updated name : String)
    (deviceId : Option String) :
    (existsFrame port).Keeps (updatePortName answers updated name deviceId) :=
  keepsExists_of_keepsGroups (updatePortName_keepsGroups answers updated name deviceId) id

/-- Changing the dictionaries but not the VIFs. -/
theorem changePools_keepsBacked {change : Pools → Pools}
    (vifs : ∀ pools, (change pools).existingVifs = pools.existingVifs) :
    (backedFrame port).Keeps (getPools >>= fun pools => setPools (change pools)) := by
  rintro world ⟨⟨pools, present, member⟩, inNeutron⟩
  rw [exec_changePools, present]
  exact ⟨⟨change pools, rfl, (vifs pools).symm ▸ member⟩, inNeutron⟩

end

/-! ## Requests -/

section

variable (options : Options) (answers : Answers) (port : String)

theorem preparePort_keepsBacked (population : Population) (taken : String) (reused : Bool) :
    (backedFrame port).Keeps
      (preparePort .nested options answers population taken reused) := by
  apply keepsBacked_of_keepsPools (preparePort_keepsPools _ _ _ _ _ _)
  have groups : (existsFrame port).Keeps
      (refreshGroups answers population.securityGroups taken reused) :=
    Frame.Keeps.ite (updatePortGroups_keepsExists _ _ _) (Frame.keeps_pure _)
  have name : (existsFrame port).Keeps
      (refreshName .nested options answers population.pod taken) :=
    keepsExists_of_keepsGroups (refreshName_keepsGroups _ _ _ _ _) id
  have spawn : (existsFrame port).Keeps (spawnWhenLow options population) :=
    keepsExists_of_keepsGroups (spawnWhenLow_keepsGroups _ _) id
  exact groups.bind fun _ => name.bind fun _ => spawn.bind fun _ => existingVif_keeps _ taken

theorem getPortFromPool_keepsBacked (poolKey : PoolKey) (pod : Pod)
    (subnets : Dict String Network) (securityGroups : List String) :
    (backedFrame port).Keeps
      (getPortFromPool .nested options answers poolKey pod subnets securityGroups) := by
  intro world backed
  rcases takePort_cases poolKey (some securityGroups) world with
    raised | ⟨pools, poolPorts, taken, left, reused, present, _, _, took⟩
  · rw [getPortFromPool, exec_bind_of_error raised]
    exact backed
  · rw [getPortFromPool, exec_bind_of_ok took]
    apply preparePort_keepsBacked
    exact ⟨⟨_, rfl, (World.knows_of_pools present).mp backed.vif⟩, backed.inNeutron⟩

theorem requestVif_keepsBacked (pod : Pod) (projectId : String)
    (subnets : Dict String Network) (securityGroups : List String) :
    (backedFrame port).Keeps
      (requestVif .nested options answers pod projectId subnets securityGroups) := by
  unfold requestVif
  cases getHostAddr .nested pod with
  | none => exact Frame.keeps_pure _
  | some hostAddr =>
      apply Frame.Keeps.tryCatch
      · exact (getPortFromPool_keepsBacked _ _ _ _ _ _ _).bind fun _ => Frame.keeps_pure _
      · intro exception
        exact keepsBacked_of_keepsPools (requestFailed_keepsPools _ _)
          (keepsExists_of_keepsGroups (requestFailed_keepsGroups _ _) id)

theorem updateVifSgs_keepsBacked (pod : Pod) (securityGroups : List String) :
    (backedFrame port).Keeps (updateVifSgs answers pod securityGroups) := by
  apply keepsBacked_of_keepsPools (updateVifSgs_keepsPools _ _ _)
  unfold updateVifSgs
  cases pod.podState with
  | none => exact Frame.keeps_pure _
  | some state => exact updatePortGroups_keepsExists _ _ _

end

/-! ## Security groups -/

section

variable (answers : Answers) (port : String)

theorem recordUpdate_keepsBacked (poolKey : PoolKey) (group : SgKey) (date : Int) :
    (backedFrame port).Keeps (recordUpdate poolKey group date) :=
  changePools_keepsBacked fun _ => rfl

theorem clearPort_keepsBacked (poolKey : PoolKey) (cleared : String) :
    (backedFrame port).Keeps (clearPort answers poolKey cleared) := by
  apply Frame.Keeps.bind
  · exact keepsBacked_of_keepsPools (updatePortGroups_keepsPools _ _ _)
      (updatePortGroups_keepsExists _ _ _)
  · intro _
    exact changePools_keepsBacked fun _ => rfl

theorem removeGroup_keepsBacked (poolKey : PoolKey) (group : SgKey) :
    (backedFrame port).Keeps (removeGroup answers poolKey group) := by
  intro world backed
  rcases backed.vif with ⟨pools, present, member⟩
  rw [removeGroup, exec_bind_of_ok (exec_getPools present)]
  cases (pools.availablePortsPools.getD poolKey ∅).get? group with
  | none => exact backed
  | some ports =>
      have rest : (backedFrame port).Keeps
          (ports.forM (clearPort answers poolKey) >>= fun _ => recordUpdate poolKey (some []) 0) :=
        (Frame.Keeps.forM fun cleared _ => clearPort_keepsBacked answers port poolKey cleared).bind
          fun _ => recordUpdate_keepsBacked port _ _ _
      simp only [setPools]
      rw [exec_modify_bind]
      exact rest _ ⟨⟨_, rfl, member⟩, backed.inNeutron⟩

theorem removeSgFromPools_keepsBacked (sgId netId : String) :
    (backedFrame port).Keeps (removeSgFromPools answers sgId netId) := by
  apply Frame.Keeps.bind (getPools_keeps _)
  intro pools
  apply Frame.Keeps.forM
  intro pool _
  apply Frame.Keeps.ite
  · apply Frame.Keeps.forM
    intro group _
    cases group with
    | none => exact Frame.keeps_throw _
    | some groups => exact Frame.Keeps.ite (removeGroup_keepsBacked _ _ _ _) (Frame.keeps_pure _)
  · exact Frame.keeps_pure _

end

/-! ## Releases -/

section

variable {before : World}

/-- A release leaves the backed ports so, and its own port is known afterwards if it waits. -/
theorem releaseVifAt_backs (hostAddr : String) (vif : Vif) (projectId port : String)
    (backed : before.Backed port ∨ port = vif.id ∧ port ∈ before.neutron)
    (present : before.pools ≠ none) :
    (exec (releaseVifAt hostAddr vif projectId) before).2.Backed port := by
  cases known : before.pools with
  | none => exact absurd known present
  | some pools =>
      rw [releaseVifAt, exec_get_bind]
      simp only [known, setPools, exec_modify]
      have unlost (old : port ∈ pools.existingVifs.dict) :
          port ∈ (if (pools.existingVifs.dict.get? vif.id).isNone then
            pools.existingVifs.put vif else pools.existingVifs).dict := by
        split
        · exact Dict.mem_set.mpr (.inr old)
        · exact old
      rcases backed with backed | ⟨rfl, inNeutron⟩
      · exact ⟨⟨_, rfl, unlost ((World.knows_of_pools known).mp backed.vif)⟩, backed.inNeutron⟩
      · refine ⟨⟨_, rfl, ?_⟩, inNeutron⟩
        by_cases missing : vif.id ∈ pools.existingVifs.dict
        · exact unlost missing
        · rw [if_pos (Option.isNone_iff_eq_none.mpr (Dict.not_mem_iff_get?_eq_none.mp missing))]
          exact Dict.mem_set.mpr (.inl rfl)

/-- A release of a port that is in Neutron and not available keeps the pools sound. -/
theorem releaseVifAt_sound (hostAddr : String) (vif : Vif) (projectId : String)
    (sound : before.Sound) (free : before.available vif.id = 0)
    (inNeutron : vif.id ∈ before.neutron) :
    (exec (releaseVifAt hostAddr vif projectId) before).2.Sound := by
  have accounts := releaseVifAt_accounts hostAddr vif projectId before
  by_cases present : before.pools = none
  · have unchanged : (exec (releaseVifAt hostAddr vif projectId) before).2 = before := by
      rw [releaseVifAt, exec_get_bind]
      simp only [present]
      rfl
    rw [unchanged]
    exact sound
  · constructor
    · intro port
      rcases accounts port with ⟨available, recycling, _⟩
      rw [World.pooled, available]
      by_cases same : port = vif.id
      · subst same
        rw [free]
        have waiting := World.recycling_le_one
          (exec (releaseVifAt hostAddr vif projectId) before).2 vif.id
        omega
      · rw [recycling same]
        exact sound.once port
    · intro port pooled
      apply releaseVifAt_backs hostAddr vif projectId port _ present
      by_cases same : port = vif.id
      · exact .inr ⟨same, same ▸ inNeutron⟩
      · rcases accounts port with ⟨available, recycling, _⟩
        rw [World.pooled_eq available (recycling same)] at pooled
        exact .inl (sound.backed port pooled)

end

/-! ## New ports -/

section

variable {world : World} {pools : Pools} {poolKey : PoolKey} {group : SgKey}

theorem World.withPools_eq_self (present : world.pools = some pools) :
    world.withPools pools = world := by
  rw [World.withPools, ← present]

/-- Filing a port that is pooled nowhere and exists. -/
theorem World.Sound.addVif {vif : Vif} (sound : (world.withPools pools).Sound)
    (new : (world.withPools pools).pooled vif.id = 0) (inNeutron : vif.id ∈ world.neutron) :
    (world.withPools (addVif poolKey group pools vif)).Sound := by
  have counts (port : String) :
      (world.withPools (Pool.addVif poolKey group pools vif)).pooled port =
        (world.withPools pools).pooled port + if port = vif.id then 1 else 0 := by
    have available := available_addVif poolKey group pools vif port
    have recycling := recycling_addVif poolKey group pools vif port
    simp only [World.pooled, World.available, World.recycling, World.pools_withPools, Option.elim,
      available, recycling]
    omega
  constructor
  · intro port
    rw [counts]
    by_cases same : port = vif.id
    · rw [same, new, if_pos rfl]
    · rw [if_neg same]
      exact sound.once port
  · intro port pooled
    rw [counts] at pooled
    by_cases same : port = vif.id
    · subst same
      exact ⟨⟨_, rfl, Dict.mem_set.mpr (.inl rfl)⟩, inNeutron⟩
    · rw [if_neg same] at pooled
      have backed := sound.backed port pooled
      have known := (World.knows_of_pools rfl).mp backed.vif
      exact ⟨⟨_, rfl, Dict.mem_set.mpr (.inr known)⟩, backed.inNeutron⟩

/-- Filing several of them. -/
theorem World.Sound.foldl_addVif {vifs : List Vif} (sound : (world.withPools pools).Sound)
    (distinct : (vifs.map Vif.id).Nodup)
    (new : ∀ vif ∈ vifs, (world.withPools pools).pooled vif.id = 0)
    (inNeutron : ∀ vif ∈ vifs, vif.id ∈ world.neutron) :
    (world.withPools (vifs.foldl (Pool.addVif poolKey group) pools)).Sound := by
  induction vifs generalizing pools with
  | nil => exact sound
  | cons vif vifs ih =>
      rw [List.map_cons, List.nodup_cons] at distinct
      have filed : (world.withPools (Pool.addVif poolKey group pools vif)).Sound :=
        sound.addVif (new vif List.mem_cons_self) (inNeutron vif List.mem_cons_self)
      apply ih filed distinct.2
      · intro later member
        have other : later.id ≠ vif.id := fun same =>
          distinct.1 (same ▸ List.mem_map_of_mem member)
        have before := new later (List.mem_cons_of_mem _ member)
        have available := available_addVif poolKey group pools vif later.id
        rw [if_neg other] at available
        simp only [World.pooled, World.available, World.recycling, World.pools_withPools,
          Option.elim, available, recycling_addVif] at before ⊢
        exact before
      · intro later member
        exact inNeutron later (List.mem_cons_of_mem _ member)

end

/-- A request for ports: it only touches new ports, and those of the VIFs it returns exist. -/
structure Supplies (ids : List String) (request : PoolM (List Vif)) : Prop where
  pools : poolsFrame.Keeps request
  groups : (groupsFrame (· ∈ ids)).Keeps request
  fresh : ∀ {before after : World} {vifs : List Vif},
    exec request before = (.ok vifs, after) → (vifs.map Vif.id).Sublist ids
  made : ∀ {before after : World} {vifs : List Vif},
    exec request before = (.ok vifs, after) → ∀ vif ∈ vifs, vif.id ∈ after.neutron

section

variable {ids : List String} {request : PoolM (List Vif)} {before : World}

theorem requestVifs_supplies (options : Options) (answers : Answers) (pod : Pod)
    (projectId : String) (subnets : Dict String Network) (securityGroups : List String)
    (numPorts : Nat) :
    Supplies answers.newPortIds
      (requestVifs .nested options answers pod projectId subnets securityGroups numPorts) := by
  constructor
  · exact requestVifs_keepsPools _ _ _ _ _ _ _ _
  · exact requestVifs_keepsGroups _ _ _ _ _ _ _ _
  · intro before after vifs ran
    exact requestVifs_ok ran
  · intro before after vifs ran vif member
    rw [World.mem_neutron_iff, requestVifs_carries ran member]
    exact Option.some_ne_none _

/-- The pooled ports are not new, so that a request leaves them sound. -/
theorem Supplies.sound (supplies : Supplies ids request) (sound : before.Sound)
    (new : ∀ id ∈ ids, before.pooled id = 0) : (exec request before).2.Sound := by
  have counters (port : String) := World.counters_of_pools_eq (supplies.pools before) port
  apply sound.of_fewer
  · intro port
    exact (World.pooled_eq (counters port).1 (counters port).2).le
  · intro port pooled backed
    rw [World.pooled_eq (counters port).1 (counters port).2] at pooled
    have old : port ∉ ids := by
      intro member
      rw [new port member] at pooled
      exact absurd pooled (Nat.lt_irrefl 0)
    exact keepsBacked_of_keepsPools supplies.pools
      (keepsExists_of_keepsGroups supplies.groups old) before backed

/-- What a request supplies may be filed. -/
theorem Supplies.file (supplies : Supplies ids request) {after : World} {vifs : List Vif}
    (ran : exec request before = (.ok vifs, after)) (sound : before.Sound) (distinct : ids.Nodup)
    (new : ∀ id ∈ ids, before.pooled id = 0) {pools : Pools}
    (present : after.pools = some pools) (poolKey : PoolKey) (group : SgKey) :
    (after.withPools (vifs.foldl (addVif poolKey group) pools)).Sound := by
  have soundAfter := supplies.sound sound new
  have kept := supplies.pools before
  rw [ran] at soundAfter kept
  have unchanged := World.withPools_eq_self present
  rw [← unchanged] at soundAfter
  apply soundAfter.foldl_addVif ((supplies.fresh ran).nodup distinct)
  · intro vif member
    have id := (supplies.fresh ran).subset (List.mem_map_of_mem member)
    have counters := World.counters_of_pools_eq kept vif.id
    rw [unchanged, World.pooled_eq counters.1 counters.2]
    exact new _ id
  · exact supplies.made ran

end

/-! ## Populations -/

section

variable {options : Options} {answers : Answers} {before : World}

theorem recordUpdate_sound (poolKey : PoolKey) (group : SgKey) (date : Int)
    (sound : before.Sound) : (exec (recordUpdate poolKey group date) before).2.Sound :=
  sound.keeps (recordUpdate_keepsCounters poolKey group date)
    fun port => recordUpdate_keepsBacked port poolKey group date

theorem fillPool_sound (poolKey : PoolKey) (pod : Pod) (subnets : Dict String Network)
    (securityGroups : List String) (lastUpdate : Int) (sound : before.Sound)
    (distinct : answers.newPortIds.Nodup)
    (new : ∀ id ∈ answers.newPortIds, before.pooled id = 0) :
    (exec (fillPool .nested options answers poolKey pod subnets securityGroups lastUpdate)
      before).2.Sound := by
  cases present : before.pools with
  | none =>
      have unchanged : (exec (fillPool .nested options answers poolKey pod subnets
          securityGroups lastUpdate) before).2 = before := by
        simp [fillPool, getPools, present]
      rw [unchanged]
      exact sound
  | some pools =>
      rw [fillPool, exec_bind_of_ok (exec_getPools present)]
      simp only
      split
      · have supplies := requestVifs_supplies options answers pod poolKey.projectId subnets
          securityGroups (populationSize options (getPoolSize pools poolKey))
        have requested := supplies.sound sound new
        have kept := supplies.pools before
        rw [exec_bind]
        rcases ran : exec (requestVifs .nested options answers pod poolKey.projectId subnets
          securityGroups (populationSize options (getPoolSize pools poolKey))) before with
          ⟨outcome, middle⟩
        rw [ran] at requested kept
        cases outcome with
        | error exception => exact requested
        | ok vifs =>
            have known : middle.pools = some pools := kept.trans present
            have filed := supplies.file ran sound distinct new known poolKey (some securityGroups)
            simp only [fileVifs]
            rw [exec_bind_of_ok (exec_getPools known), setPools, exec_modify_bind]
            split
            · exact recordUpdate_sound _ _ _ filed
            · exact filed
      · exact sound

/-- `_populate_pool` files ports that exist. -/
theorem populatePool_sound (now : Int) (poolKey : PoolKey) (pod : Pod)
    (subnets : Dict String Network) (securityGroups : List String) (sound : before.Sound)
    (distinct : answers.newPortIds.Nodup)
    (new : ∀ id ∈ answers.newPortIds, before.pooled id = 0) :
    (exec (populatePool .nested options answers now poolKey pod subnets securityGroups)
      before).2.Sound := by
  rw [populatePool, exec_get_bind]
  split
  · cases present : before.pools with
    | none =>
        have unchanged : (exec (populateRecovered .nested options answers now poolKey pod
            subnets securityGroups) before).2 = before := by
          simp [populateRecovered, getPools, present]
        rw [unchanged]
        exact sound
    | some pools =>
        rw [populateRecovered, exec_bind_of_ok (exec_getPools present)]
        simp only
        split
        · exact sound
        · have recorded := recordUpdate_sound poolKey (some securityGroups) now sound
          have counters (port : String) :=
            recordUpdate_keepsCounters poolKey (some securityGroups) now port before
          rw [exec_bind]
          rcases ran : exec (recordUpdate poolKey (some securityGroups) now) before with
            ⟨outcome, middle⟩
          rw [ran] at recorded counters
          cases outcome with
          | error exception => exact recorded
          | ok value =>
              apply fillPool_sound _ _ _ _ _ recorded distinct
              intro id member
              rcases Prod.ext_iff.mp (counters id) with ⟨available, recycling⟩
              rw [World.pooled_eq available recycling]
              exact new id member
  · exact sound

end

end KuryrKubernetes.Pool

import KuryrKubernetes.Pool.Recycling

/-!
# The group a port is filed under and the groups it has

A pooled port is filed under a group key, and Neutron keeps the groups the port
really has.  This file follows both copies through the operations: which ports
may be filed anew, and which ports may get other groups in Neutron.
-/

namespace KuryrKubernetes.Pool

open KuryrKubernetes.Data
open KuryrKubernetes.Effect

/-! ## The two copies -/

/-- All available ports with the key they are filed under. -/
def Pools.listings (pools : Pools) : List (SgKey × String) :=
  pools.availablePortsPools.items.flatMap fun pool =>
    pool.2.items.flatMap fun list => list.2.map fun port => (list.1, port)

/-- `Pools.listings` of the driver, nothing before `sync_pools`. -/
def World.listings (world : World) : List (SgKey × String) :=
  world.pools.elim [] Pools.listings

/-- The groups of a port in Neutron. -/
def World.groupsOf (world : World) (port : String) : Option (List String) :=
  (world.neutron.get? port).map NeutronPort.securityGroupIds

/-- A port has exactly the given groups in Neutron. -/
def World.Carries (world : World) (port : String) (groups : List String) : Prop :=
  ∃ current, world.groupsOf port = some current ∧ ∀ group, group ∈ current ↔ group ∈ groups

theorem Pools.mem_listings {pools : Pools} {group : SgKey} {port : String} :
    (group, port) ∈ pools.listings ↔
      ∃ poolKey poolPorts ports, pools.availablePortsPools.get? poolKey = some poolPorts ∧
        poolPorts.get? group = some ports ∧ port ∈ ports := by
  simp only [Pools.listings, List.mem_flatMap, List.mem_map, Prod.exists, Prod.mk.injEq,
    Dict.mem_items_iff]
  constructor
  · rintro ⟨poolKey, poolPorts, pool, _, ports, list, _, member, rfl, rfl⟩
    exact ⟨poolKey, poolPorts, ports, pool, list, member⟩
  · rintro ⟨poolKey, poolPorts, ports, pool, list, member⟩
    exact ⟨poolKey, poolPorts, pool, group, ports, list, port, member, rfl, rfl⟩

theorem World.listings_of_pools {world : World} {pools : Pools}
    (present : world.pools = some pools) : world.listings = pools.listings := by
  simp [World.listings, present]

theorem World.listings_of_pools_eq {before after : World}
    (same : after.pools = before.pools) : after.listings = before.listings := by
  simp [World.listings, same]

/-- A filed port is available. -/
theorem World.available_pos_of_listed {world : World} {group : SgKey} {port : String}
    (listed : (group, port) ∈ world.listings) : 0 < world.available port := by
  cases present : world.pools with
  | none => simp [World.listings, present] at listed
  | some pools =>
      rw [World.listings_of_pools present] at listed
      rw [World.available_of_pools present]
      obtain ⟨poolKey, poolPorts, ports, found⟩ := Pools.mem_listings.mp listed
      exact Pools.available_pos_iff.mpr ⟨poolKey, poolPorts, group, ports, found⟩

/-- After a change of one pool a port is filed in that pool, or as before. -/
theorem Pools.mem_listings_setPool {pools : Pools} {poolKey : PoolKey}
    {poolPorts : PoolPorts} {group : SgKey} {port : String}
    (listed : (group, port) ∈ (pools.setPool poolKey poolPorts).listings) :
    (∃ ports, poolPorts.get? group = some ports ∧ port ∈ ports) ∨
      (group, port) ∈ pools.listings := by
  obtain ⟨otherKey, otherPorts, ports, pool, list, member⟩ := Pools.mem_listings.mp listed
  simp only [Pools.setPool, Dict.get?_set] at pool
  split at pool
  · cases pool
    exact .inl ⟨ports, list, member⟩
  · exact .inr (Pools.mem_listings.mpr ⟨otherKey, otherPorts, ports, pool, list, member⟩)

theorem Pools.mem_listings_of_getD {pools : Pools} {poolKey : PoolKey} {group : SgKey}
    {ports : List String} {port : String}
    (list : (pools.availablePortsPools.getD poolKey ∅).get? group = some ports)
    (member : port ∈ ports) : (group, port) ∈ pools.listings := by
  cases pool : pools.availablePortsPools.get? poolKey with
  | none =>
      rw [Dict.getD_of_get?_eq_none ∅ pool] at list
      cases list
  | some poolPorts =>
      rw [Dict.getD_of_get?_eq_some ∅ pool] at list
      exact Pools.mem_listings.mpr ⟨poolKey, poolPorts, ports, pool, list, member⟩

/-- Filing a port adds one listing. -/
theorem Pools.mem_listings_filePort {pools : Pools} {poolKey : PoolKey}
    {filedGroup group : SgKey} {filed port : String}
    (listed : (group, port) ∈ (filePort pools poolKey filedGroup filed).listings) :
    (group = filedGroup ∧ port = filed) ∨ (group, port) ∈ pools.listings := by
  rcases Pools.mem_listings_setPool listed with ⟨ports, list, member⟩ | before
  · simp only [Dict.alter, Dict.get?_set] at list
    split at list
    · cases list
      rcases List.mem_append.mp member with old | new
      · cases known : (pools.availablePortsPools.getD poolKey ∅).get? filedGroup with
        | none =>
            rw [Dict.getD_of_get?_eq_none [] known] at old
            cases old
        | some oldPorts =>
            rw [Dict.getD_of_get?_eq_some [] known] at old
            subst group
            exact .inr (Pools.mem_listings_of_getD known old)
      · exact .inl ⟨‹group = filedGroup›, List.mem_singleton.mp new⟩
    · exact .inr (Pools.mem_listings_of_getD list member)
  · exact .inr before

theorem Pools.mem_listings_eraseGroup {pools : Pools} {poolKey : PoolKey}
    {erased group : SgKey} {port : String}
    (listed : (group, port) ∈ (pools.eraseGroup poolKey erased).listings) :
    (group, port) ∈ pools.listings := by
  rcases Pools.mem_listings_setPool listed with ⟨ports, list, member⟩ | before
  · rw [Dict.get?_erase] at list
    split at list
    · cases list
    · exact Pools.mem_listings_of_getD list member
  · exact before

theorem Pools.mem_listings_takePort {pools : Pools} {poolKey : PoolKey}
    {poolPorts left : PoolPorts} {source group : SgKey} {taken port : String}
    (pool : pools.availablePortsPools.get? poolKey = some poolPorts)
    (pop : popPort poolPorts source = some (taken, left))
    (listed : (group, port) ∈ (pools.setPool poolKey left).listings) :
    (group, port) ∈ pools.listings := by
  obtain ⟨sourcePorts, found, _, rfl⟩ := popPort_eq_some pop
  rcases Pools.mem_listings_setPool listed with ⟨ports, list, member⟩ | before
  · rw [Dict.get?_set] at list
    split at list
    · cases list
      subst group
      exact Pools.mem_listings.mpr ⟨poolKey, poolPorts, sourcePorts, pool, found,
        List.dropLast_subset _ member⟩
    · exact Pools.mem_listings.mpr ⟨poolKey, poolPorts, ports, pool, list, member⟩
  · exact before

/-! ## Groups in Neutron -/

/-- Only the exempt ports may get other groups, or appear or disappear. -/
def groupsFrame (exempt : String → Prop) : Frame World where
  rel before after := ∀ port, ¬exempt port → after.groupsOf port = before.groupsOf port
  refl _ _ _ := rfl
  trans first second port kept := (second port kept).trans (first port kept)

/-- No port gets other groups. -/
abbrev allGroupsFrame : Frame World :=
  groupsFrame fun _ => False

theorem keepsGroups_of_all {α : Type} {program : PoolM α} {exempt : String → Prop}
    (kept : allGroupsFrame.Keeps program) : (groupsFrame exempt).Keeps program :=
  kept.mono fun _ _ same port _ => same port id

theorem groupsOf_setNeutron (world : World) (port other : String) (record : NeutronPort) :
    World.groupsOf { world with neutron := world.neutron.set port record } other =
      if other = port then some record.securityGroupIds else world.groupsOf other := by
  simp only [World.groupsOf, Dict.get?_set]
  split <;> rfl

theorem updatePortGroups_keepsGroups (answers : Answers) (port : String)
    (groups : List String) :
    (groupsFrame (· = port)).Keeps (updatePortGroups answers port groups) := by
  refine Frame.Keeps.bind (callNeutron_keeps _ _ _) fun _ => ?_
  intro world other different
  rw [exec_get_bind]
  cases found : world.neutron.get? port with
  | none => rfl
  | some record =>
      simp only [exec_set]
      rw [groupsOf_setNeutron, if_neg different]

/-- After a successful update a port has the groups of the update. -/
theorem updatePortGroups_ok {answers : Answers} {port : String} {groups : List String}
    {before after : World}
    (ran : exec (updatePortGroups answers port groups) before = (.ok ⟨⟩, after)) :
    after.groupsOf port = some groups := by
  obtain ⟨_, world, _, updated⟩ := exec_bind_eq_ok ran
  rw [exec_get_bind] at updated
  cases found : world.neutron.get? port with
  | none => simp [found] at updated
  | some record =>
      simp only [found, exec_set, Prod.mk.injEq, true_and] at updated
      rw [← updated, groupsOf_setNeutron, if_pos rfl]

theorem exec_callNeutron (answers : Answers) (call : NeutronCall) (world : World) :
    exec (callNeutron answers call) world =
      if answers.fails call then (.error .sdkException, world) else (.ok ⟨⟩, world) := by
  unfold callNeutron
  split <;> rfl

/-- A refused update changes nothing. -/
theorem updatePortGroups_error {answers : Answers} {port : String} {groups : List String}
    {before after : World} {exception : PyException}
    (ran : exec (updatePortGroups answers port groups) before = (.error exception, after)) :
    after = before := by
  rw [updatePortGroups, exec_bind, exec_callNeutron] at ran
  cases refused : answers.fails (.updateGroups port) with
  | true =>
      simp only [refused, ite_true] at ran
      cases ran
      rfl
  | false =>
      simp only [refused, Bool.false_eq_true, ite_false] at ran
      rw [exec_get_bind] at ran
      cases found : before.neutron.get? port with
      | none =>
          simp only [found] at ran
          cases ran
          rfl
      | some record =>
          simp only [found] at ran
          cases ran

theorem updatePortName_keepsGroups (answers : Answers) (port name : String)
    (deviceId : Option String) :
    allGroupsFrame.Keeps (updatePortName answers port name deviceId) := by
  refine Frame.Keeps.bind (callNeutron_keeps _ _ _) fun _ => ?_
  intro world other _
  rw [exec_get_bind]
  cases found : world.neutron.get? port with
  | none => rfl
  | some record =>
      simp only [exec_set]
      rw [groupsOf_setNeutron]
      split
      · subst other
        simp [World.groupsOf, found]
      · rfl

theorem deletePort_keepsGroups (answers : Answers) (port : String) :
    (groupsFrame (· = port)).Keeps (deletePort answers port) := by
  refine Frame.Keeps.bind (callNeutron_keeps _ _ _) fun _ => ?_
  refine Frame.keeps_modify fun world other different => ?_
  simp [World.groupsOf, Dict.get?_erase, different]

/-- A program that leaves the Neutron ports alone. -/
abbrev neutronFrame : Frame World :=
  Frame.same World.neutron

theorem keepsGroups_of_keepsNeutron {α : Type} {program : PoolM α}
    (kept : neutronFrame.Keeps program) : allGroupsFrame.Keeps program :=
  kept.mono fun before after same port _ => by
    have equal : after.neutron = before.neutron := same
    rw [World.groupsOf, World.groupsOf, equal]

theorem changePools_keepsNeutron (change : Pools → Pools) :
    neutronFrame.Keeps (getPools >>= fun pools => setPools (change pools)) :=
  Frame.Keeps.bind (getPools_keeps _) fun _ => Frame.keeps_modify fun _ => rfl

end KuryrKubernetes.Pool

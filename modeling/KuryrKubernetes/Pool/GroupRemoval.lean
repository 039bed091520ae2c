import KuryrKubernetes.Data.Places
import KuryrKubernetes.Pool.Filing
import KuryrKubernetes.Pool.Reuse
import KuryrKubernetes.Pool.Turns

/-!
# Taking a security group out of the pools

`remove_sg_from_pools` takes apart every list of a network that names the group: the list is
deleted first, and its ports are filed again one by one, after Neutron has taken their groups.
-/

namespace KuryrKubernetes.Pool

open KuryrKubernetes.Data
open KuryrKubernetes.Effect
open KuryrKubernetes.Transition

/-! ## What is asked of a removal -/

/-- After a removal the method has returned, no port and no list of the network has the group,
each port is available once, in the list without groups if it has been moved, and the other
networks are as they were. -/
structure Cleared (sgId netId : String) (before : World)
    (result : Except PyException PUnit × World) : Prop where
  ended : result.1 = .ok ⟨⟩
  uncarried : ∀ poolKey group port, poolKey.netId = some netId →
    port ∈ (result.2.poolPorts poolKey).getD group [] →
      ∀ groups ∈ result.2.groupsOf port, sgId ∉ groups
  unnamed : ∀ poolKey groups, poolKey.netId = some netId →
    some groups ∈ result.2.poolPorts poolKey → sgId ∉ groups
  once : ∀ port, 0 < before.available port → result.2.available port = 1
  moved : ∀ poolKey groups port, poolKey.netId = some netId → sgId ∈ groups →
    port ∈ (before.poolPorts poolKey).getD (some groups) [] →
      port ∈ (result.2.poolPorts poolKey).getD (some []) []
  others : ∀ poolKey, poolKey.netId ≠ some netId →
    result.2.poolPorts poolKey = before.poolPorts poolKey

/-- Neutron carries out the updates of all available ports. -/
def World.UpdatesPooled (world : World) (answers : Answers) : Prop :=
  ∀ port, 0 < world.available port → world.Updates answers (.updateGroups port) port

/-- A removal does all of this when Neutron succeeds, and it never loses a port. -/
structure RemovesGroup (answers : Answers) (sgId netId : String) (before : World) : Prop where
  clears : before.UpdatesPooled answers →
    Cleared sgId netId before (exec (removeSgFromPools answers sgId netId) before)
  keeps : ∀ port, before.available port ≤
    (exec (removeSgFromPools answers sgId netId) before).2.available port

/-! ## The lists of a network -/

/-- The lists that a removal looks at, each with its pool, in the order in which it does. -/
def Pools.networkLists (pools : Pools) (netId : String) :
    List ((PoolKey × PoolPorts) × SgKey) :=
  pools.availablePortsPools.items.flatMap fun pool =>
    (if pool.1.netId = some netId then pool.2.keys else []).map fun group => (pool, group)

/-- `Pools.networkLists` of the driver, nothing before `sync_pools`. -/
def World.networkLists (world : World) (netId : String) :
    List ((PoolKey × PoolPorts) × SgKey) :=
  world.pools.elim [] (·.networkLists netId)

/-- The turn of one list. -/
def removeTurn (answers : Answers) (sgId : String) (turn : (PoolKey × PoolPorts) × SgKey) :
    PoolM Unit :=
  removeSgFromGroup answers sgId turn.1.1 turn.2

theorem exec_removeSgFromPools {world : World} {pools : Pools}
    (present : world.pools = some pools) (answers : Answers) (sgId netId : String) :
    exec (removeSgFromPools answers sgId netId) world =
      exec ((pools.networkLists netId).forM (removeTurn answers sgId)) world := by
  have inner : removeSgFromPool answers sgId netId = fun pool =>
      (if pool.1.netId = some netId then pool.2.keys else []).forM
        (removeSgFromGroup answers sgId pool.1) := by
    funext pool
    unfold removeSgFromPool
    split
    · rfl
    · rfl
  rw [removeSgFromPools, exec_bind_of_ok (exec_getPools present), inner,
    forM_flatMap_map_eq pools.availablePortsPools.items
      (fun pool => if pool.1.netId = some netId then pool.2.keys else [])
      fun pool => removeSgFromGroup answers sgId pool.1]
  rfl

theorem mem_networkLists_iff {pools : Pools} {netId : String} {poolKey : PoolKey}
    {poolPorts : PoolPorts} {group : SgKey} :
    ((poolKey, poolPorts), group) ∈ pools.networkLists netId ↔
      poolKey.netId = some netId ∧ pools.availablePortsPools.get? poolKey = some poolPorts ∧
        group ∈ poolPorts := by
  unfold Pools.networkLists
  simp only [List.mem_flatMap, List.mem_map, Prod.mk.injEq]
  constructor
  · rintro ⟨pool, listed, key, member, same, rfl⟩
    subst same
    split at member
    · rename_i network
      exact ⟨network, Dict.mem_items_iff.mp listed, Dict.mem_keys_iff.mp member⟩
    · exact absurd member List.not_mem_nil
  · rintro ⟨network, found, member⟩
    refine ⟨(poolKey, poolPorts), Dict.mem_items_iff.mpr found, group, ?_, rfl, rfl⟩
    rw [if_pos network]
    exact Dict.mem_keys_iff.mpr member

theorem nodup_networkLists (pools : Pools) (netId : String) :
    ((pools.networkLists netId).map fun turn => (turn.1.1, turn.2)).Nodup := by
  unfold Pools.networkLists
  simp only [List.map_flatMap, List.map_map]
  rw [List.nodup_flatMap]
  constructor
  · intro pool listed
    split
    · apply pool.2.nodupKeys.map
      intro first second same
      exact (Prod.mk.inj same).2
    · exact List.nodup_nil
  · have distinct : pools.availablePortsPools.items.Pairwise fun first second =>
        first.1 ≠ second.1 := List.pairwise_map.mp pools.availablePortsPools.nodupKeys
    apply distinct.imp
    intro first second different turn inFirst inSecond
    rcases List.mem_map.mp inFirst with ⟨_, _, rfl⟩
    rcases List.mem_map.mp inSecond with ⟨_, _, same⟩
    exact different (Prod.mk.inj same).1.symm

/-! ## Clearing a list -/

/-- The ports of a list, filed again without groups. -/
def Pools.refile (pools : Pools) (poolKey : PoolKey) (ports : List String) : Pools :=
  ports.foldl (fun pools port => filePort pools poolKey (some []) port) pools

section

variable {answers : Answers} {sgId netId : String} {poolKey : PoolKey} {pools : Pools}
  {world before : World}

theorem refile_cons (pools : Pools) (poolKey : PoolKey) (port : String) (rest : List String) :
    pools.refile poolKey (port :: rest) =
      (filePort pools poolKey (some []) port).refile poolKey rest :=
  rfl

theorem getD_refile_of_ne (ports : List String) {other : PoolKey} (different : other ≠ poolKey) :
    (pools.refile poolKey ports).availablePortsPools.getD other ∅ =
      pools.availablePortsPools.getD other ∅ := by
  induction ports generalizing pools with
  | nil => rfl
  | cons port rest ih => rw [refile_cons, ih, getD_filePort, if_neg different]

theorem get?_refile_of_ne (ports : List String) {group : SgKey} (named : group ≠ some []) :
    ((pools.refile poolKey ports).availablePortsPools.getD poolKey ∅).get? group =
      (pools.availablePortsPools.getD poolKey ∅).get? group := by
  induction ports generalizing pools with
  | nil => rfl
  | cons port rest ih =>
      rw [refile_cons, ih, getD_filePort, if_pos rfl, Dict.alter, Dict.get?_set_of_ne _ _ named]

theorem mem_refile (ports : List String) (other : String) :
    other ∈ ((pools.refile poolKey ports).availablePortsPools.getD poolKey ∅).getD (some []) [] ↔
      other ∈ (pools.availablePortsPools.getD poolKey ∅).getD (some []) [] ∨ other ∈ ports := by
  induction ports generalizing pools with
  | nil => simp [Pools.refile]
  | cons port rest ih =>
      rw [refile_cons, ih, getD_filePort, if_pos rfl, Dict.alter, Dict.getD, Dict.get?_set_self,
        Option.getD_some, List.mem_append, List.mem_singleton, List.mem_cons, or_assoc]

theorem available_refile (ports : List String) (other : String) :
    (pools.refile poolKey ports).available other =
      pools.available other + ports.count other := by
  induction ports generalizing pools with
  | nil => rfl
  | cons port rest ih =>
      rw [refile_cons, ih, available_filePort, List.count_cons]
      simp only [beq_iff_eq, eq_comm (a := port)]
      omega

theorem exec_clearPort_of_updates (poolKey : PoolKey) {port : String}
    (updates : world.Updates answers (.updateGroups port) port)
    (present : world.pools = some pools) :
    ∃ after, exec (clearPort answers poolKey port) world = (.ok ⟨⟩, after) ∧
      after.pools = some (filePort pools poolKey (some []) port) ∧
      (∀ other, other ∈ after.neutron ↔ other ∈ world.neutron) ∧
      ∀ other, after.groupsOf other =
        if other = port then some [] else world.groupsOf other := by
  rcases exec_updatePort_of_updates updates fun record =>
      { record with securityGroupIds := [] } with ⟨middle, ran, alike⟩
  have updated : exec (updatePortGroups answers port []) world = (.ok ⟨⟩, middle) := ran
  have there : middle.pools = some pools := alike.pools.trans present
  refine ⟨middle.withPools (filePort pools poolKey (some []) port), ?_, rfl, alike.neutron, ?_⟩
  · rw [clearPort, exec_bind_of_ok updated, exec_changePools, there]
  · intro other
    split
    · rename_i same
      rw [same]
      change middle.groupsOf port = some []
      exact updatePortGroups_ok updated
    · rename_i different
      have kept := updatePortGroups_keepsGroups answers port [] world other different
      rw [updated] at kept
      exact kept

theorem exec_clearPort_of_refused (poolKey : PoolKey) {port : String}
    (refused : ¬world.Updates answers (.updateGroups port) port) :
    ∃ exception, exec (clearPort answers poolKey port) world = (.error exception, world) := by
  rcases exec_updatePort_of_refused refused fun record =>
      { record with securityGroupIds := [] } with ⟨exception, _, raised⟩
  have failed : exec (updatePortGroups answers port []) world = (.error exception, world) :=
    raised
  exact ⟨exception, exec_bind_of_error failed⟩

/-- Where Neutron carries out the updates, all ports of a list are filed again. -/
theorem exec_clearPorts_of_updates (poolKey : PoolKey) {ports : List String}
    (updates : ∀ port ∈ ports, world.Updates answers (.updateGroups port) port)
    (present : world.pools = some pools) :
    ∃ after, exec (ports.forM (clearPort answers poolKey)) world = (.ok ⟨⟩, after) ∧
      after.pools = some (pools.refile poolKey ports) ∧
      (∀ other, other ∈ after.neutron ↔ other ∈ world.neutron) ∧
      ∀ other, after.groupsOf other =
        if other ∈ ports then some [] else world.groupsOf other := by
  induction ports generalizing world pools with
  | nil => exact ⟨world, rfl, present, fun _ => Iff.rfl, fun _ => rfl⟩
  | cons port rest ih =>
      rcases exec_clearPort_of_updates poolKey (updates port List.mem_cons_self) present with
        ⟨middle, ran, filed, sameThen, groupsThen⟩
      have updatesThen : ∀ other ∈ rest, middle.Updates answers (.updateGroups other) other := by
        intro other listed
        rcases updates other (List.mem_cons_of_mem _ listed) with ⟨served, there⟩
        exact ⟨served, (sameThen other).mpr there⟩
      rcases ih updatesThen filed with ⟨after, ranThen, refiled, same, groups⟩
      refine ⟨after, ?_, refiled, fun other => (same other).trans (sameThen other), ?_⟩
      · rw [forM_cons_eq, exec_bind_of_ok ran]
        exact ranThen
      · intro other
        rw [groups, groupsThen]
        by_cases later : other ∈ rest
        · rw [if_pos later, if_pos (List.mem_cons_of_mem _ later)]
        · rw [if_neg later]
          simp only [List.mem_cons, later, or_false]

/-- Where Neutron does not, a port is not filed again. -/
theorem exec_clearPorts_of_refused (poolKey : PoolKey) {ports : List String}
    {refused : String} (listed : refused ∈ ports)
    (refuses : ¬world.Updates answers (.updateGroups refused) refused)
    (present : world.pools = some pools) :
    ∃ exception after, ∃ lost ∈ ports,
      ¬world.Updates answers (.updateGroups lost) lost ∧
        exec (ports.forM (clearPort answers poolKey)) world = (.error exception, after) ∧
        after.available lost = world.available lost := by
  induction ports generalizing world pools with
  | nil => exact absurd listed List.not_mem_nil
  | cons port rest ih =>
      by_cases updates : world.Updates answers (.updateGroups port) port
      · rcases exec_clearPort_of_updates poolKey updates present with
          ⟨middle, ran, filed, sameThen, _⟩
        have refusesThen : ¬middle.Updates answers (.updateGroups refused) refused :=
          fun both => refuses ⟨both.1, (sameThen refused).mp both.2⟩
        have inRest : refused ∈ rest := by
          rcases List.mem_cons.mp listed with rfl | inRest
          · exact absurd updates refuses
          · exact inRest
        rcases ih inRest refusesThen filed with
          ⟨exception, after, lost, member, refusesToo, ranThen, kept⟩
        have refusesLost : ¬world.Updates answers (.updateGroups lost) lost :=
          fun both => refusesToo ⟨both.1, (sameThen lost).mpr both.2⟩
        have different : lost ≠ port := by
          rintro rfl
          exact refusesLost updates
        refine ⟨exception, after, lost, List.mem_cons_of_mem _ member, refusesLost, ?_, ?_⟩
        · rw [forM_cons_eq, exec_bind_of_ok ran]
          exact ranThen
        · rw [kept, World.available_of_pools filed, World.available_of_pools present,
            available_filePort, if_neg different]
          rfl
      · rcases exec_clearPort_of_refused poolKey updates with ⟨exception, raised⟩
        refine ⟨exception, world, port, List.mem_cons_self, updates, ?_, rfl⟩
        rw [forM_cons_eq]
        exact exec_bind_of_error raised

theorem getD_eraseGroup (pools : Pools) (poolKey : PoolKey) (group : SgKey) (other : PoolKey) :
    (pools.eraseGroup poolKey group).availablePortsPools.getD other ∅ =
      if other = poolKey then (pools.availablePortsPools.getD poolKey ∅).erase group
      else pools.availablePortsPools.getD other ∅ := by
  simp only [Pools.eraseGroup, Pools.setPool]
  rw [Dict.getD, Dict.get?_set]
  split
  · rfl
  · rfl

/-- A list that is there is deleted, and its ports are cleared. -/
theorem exec_removeGroup (present : world.pools = some pools) {group : SgKey}
    {ports : List String}
    (found : (pools.availablePortsPools.getD poolKey ∅).get? group = some ports) :
    exec (removeGroup answers poolKey group) world =
      exec (ports.forM (clearPort answers poolKey) >>= fun _ => recordUpdate poolKey (some []) 0)
        (world.withPools (pools.eraseGroup poolKey group)) := by
  rw [removeGroup, exec_bind_of_ok (exec_getPools present), found]
  rfl

/-! ## How far a removal has come -/

/-- A port of a list that has been dealt with and names the group. -/
def Moved (sgId : String) (start : World) (done : List (PoolKey × SgKey)) (poolKey : PoolKey)
    (port : String) : Prop :=
  ∃ groups, sgId ∈ groups ∧ (poolKey, some groups) ∈ done ∧
    port ∈ (start.poolPorts poolKey).getD (some groups) []

/-- Where a removal stands when some lists have been dealt with: those that name the group are
gone, their ports have no groups, and are filed so. -/
structure Progress (sgId netId : String) (start : World) (done : List (PoolKey × SgKey))
    (world : World) : Prop where
  present : ∃ pools, world.pools = some pools
  available : ∀ port, world.available port = start.available port
  inNeutron : ∀ port, port ∈ world.neutron ↔ port ∈ start.neutron
  others : ∀ poolKey, poolKey.netId ≠ some netId →
    world.poolPorts poolKey = start.poolPorts poolKey
  named : ∀ poolKey groups, sgId ∈ groups →
    (world.poolPorts poolKey).get? (some groups) =
      if (poolKey, some groups) ∈ done then none
      else (start.poolPorts poolKey).get? (some groups)
  unnamed : ∀ poolKey group, group ≠ some [] → (∀ groups ∈ group, sgId ∉ groups) →
    (world.poolPorts poolKey).get? group = (start.poolPorts poolKey).get? group
  empty : ∀ poolKey port, port ∈ (world.poolPorts poolKey).getD (some []) [] ↔
    port ∈ (start.poolPorts poolKey).getD (some []) [] ∨ Moved sgId start done poolKey port
  cleared : ∀ poolKey port, Moved sgId start done poolKey port →
    world.groupsOf port = some []
  spared : ∀ port, (∀ poolKey, ¬Moved sgId start done poolKey port) →
    world.groupsOf port = start.groupsOf port

theorem Progress.start (present : world.pools = some pools) :
    Progress sgId netId world [] world where
  present := ⟨pools, present⟩
  available _ := rfl
  inNeutron _ := Iff.rfl
  others _ _ := rfl
  named _ _ _ := by rw [if_neg List.not_mem_nil]
  unnamed _ _ _ _ := rfl
  empty poolKey port := by
    constructor
    · exact .inl
    · rintro (listed | ⟨groups, _, nowhere, _⟩)
      · exact listed
      · exact absurd nowhere List.not_mem_nil
  cleared poolKey port := by
    rintro ⟨groups, _, nowhere, _⟩
    exact absurd nowhere List.not_mem_nil
  spared _ _ := rfl

variable {start : World} {done : List (PoolKey × SgKey)}

theorem moved_cons_iff {groups : List String} (names : sgId ∈ groups) {other : PoolKey}
    {port : String} :
    Moved sgId start ((poolKey, some groups) :: done) other port ↔
      (other = poolKey ∧ port ∈ (start.poolPorts poolKey).getD (some groups) []) ∨
        Moved sgId start done other port := by
  constructor
  · rintro ⟨members, named, listed, member⟩
    rcases List.mem_cons.mp listed with same | before
    · cases same
      exact .inl ⟨rfl, member⟩
    · exact .inr ⟨members, named, before, member⟩
  · rintro (⟨rfl, member⟩ | ⟨members, named, before, member⟩)
    · exact ⟨groups, names, List.mem_cons_self, member⟩
    · exact ⟨members, named, List.mem_cons_of_mem _ before, member⟩

/-- A list that does not name the group counts as dealt with. -/
theorem Progress.skip (progress : Progress sgId netId start done world) {group : SgKey}
    (unnamed : ∀ groups ∈ group, sgId ∉ groups) :
    Progress sgId netId start ((poolKey, group) :: done) world := by
  have same (other : PoolKey) (groups : List String) (names : sgId ∈ groups) :
      (other, some groups) ∈ (poolKey, group) :: done ↔ (other, some groups) ∈ done := by
    rw [List.mem_cons, or_iff_right]
    intro equal
    cases equal
    exact unnamed groups rfl names
  have moved (other : PoolKey) (port : String) :
      Moved sgId start ((poolKey, group) :: done) other port ↔
        Moved sgId start done other port := by
    constructor
    · rintro ⟨groups, names, listed, member⟩
      exact ⟨groups, names, (same other groups names).mp listed, member⟩
    · rintro ⟨groups, names, listed, member⟩
      exact ⟨groups, names, (same other groups names).mpr listed, member⟩
  exact
    { present := progress.present
      available := progress.available
      inNeutron := progress.inNeutron
      others := progress.others
      named := by
        intro other groups names
        simp only [same other groups names]
        exact progress.named other groups names
      unnamed := progress.unnamed
      empty := by
        intro other port
        rw [moved]
        exact progress.empty other port
      cleared := by
        intro other port
        rw [moved]
        exact progress.cleared other port
      spared := by
        intro port
        simp only [moved]
        exact progress.spared port }

/-- A list that names the group is as it was until it is dealt with. -/
theorem Progress.found_of_present (progress : Progress sgId netId start done world)
    {groups ports : List String} (present : world.pools = some pools) (names : sgId ∈ groups)
    (new : (poolKey, some groups) ∉ done)
    (found : (start.poolPorts poolKey).get? (some groups) = some ports) :
    (pools.availablePortsPools.getD poolKey ∅).get? (some groups) = some ports := by
  rw [← World.poolPorts_of_pools present, progress.named poolKey groups names, if_neg new]
  exact found

/-- A list that names the group is dealt with where Neutron carries out the updates. -/
theorem Progress.remove (progress : Progress sgId netId start done world)
    {groups ports : List String} (network : poolKey.netId = some netId) (names : sgId ∈ groups)
    (new : (poolKey, some groups) ∉ done)
    (found : (start.poolPorts poolKey).get? (some groups) = some ports)
    (updates : ∀ port ∈ ports, start.Updates answers (.updateGroups port) port) :
    ∃ after, exec (removeGroup answers poolKey (some groups)) world = (.ok ⟨⟩, after) ∧
      Progress sgId netId start ((poolKey, some groups) :: done) after := by
  rcases progress.present with ⟨pools, present⟩
  have foundNow := progress.found_of_present present names new found
  have updatesNow : ∀ port ∈ ports,
      (world.withPools (pools.eraseGroup poolKey (some groups))).Updates answers
        (.updateGroups port) port := by
    intro port listed
    rcases updates port listed with ⟨served, there⟩
    exact ⟨served, (progress.inNeutron port).mpr there⟩
  rcases exec_clearPorts_of_updates poolKey updatesNow (World.pools_withPools world _) with
    ⟨middle, ran, refiled, neutron, groupsOf⟩
  have nonempty (members : List String) (named : sgId ∈ members) : some members ≠ some [] := by
    intro same
    cases same
    exact absurd named List.not_mem_nil
  have listed (port : String) :
      port ∈ (start.poolPorts poolKey).getD (some groups) [] ↔ port ∈ ports := by
    rw [Dict.getD_of_get?_eq_some [] found]
  -- The world after the date has been recorded has the same lists as before.
  let recorded : Pools :=
    { (pools.eraseGroup poolKey (some groups)).refile poolKey ports with
      lastUpdate := ((pools.eraseGroup poolKey (some groups)).refile poolKey ports).lastUpdate.set
        poolKey ((∅ : Dict SgKey Int).set (some []) 0) }
  have lists (other : PoolKey) : (middle.withPools recorded).poolPorts other =
      ((pools.eraseGroup poolKey (some groups)).refile poolKey ports).availablePortsPools.getD
        other ∅ :=
    rfl
  have elsewhere (other : PoolKey) (different : other ≠ poolKey) :
      (middle.withPools recorded).poolPorts other = world.poolPorts other := by
    rw [lists, getD_refile_of_ne ports different, getD_eraseGroup, if_neg different,
      World.poolPorts_of_pools present]
  have kept (group : SgKey) (unempty : group ≠ some []) (different : group ≠ some groups) :
      ((middle.withPools recorded).poolPorts poolKey).get? group =
        (world.poolPorts poolKey).get? group := by
    rw [lists, get?_refile_of_ne ports unempty, getD_eraseGroup, if_pos rfl, Dict.get?_erase,
      if_neg different, World.poolPorts_of_pools present]
  refine ⟨middle.withPools recorded, ?_, ?_⟩
  · rw [exec_removeGroup present foundNow, exec_bind_of_ok ran, recordUpdate, exec_changePools,
      refiled]
  · constructor
    · exact ⟨recorded, rfl⟩
    · intro port
      have removed := available_eraseGroup foundNow port
      have count : recorded.available port =
          (pools.eraseGroup poolKey (some groups)).available port + ports.count port :=
        available_refile ports port
      rw [World.available_of_pools rfl, count, removed, ← World.available_of_pools present,
        progress.available]
    · intro port
      exact (neutron port).trans (progress.inNeutron port)
    · intro other foreign
      have different : other ≠ poolKey := by
        rintro rfl
        exact foreign network
      rw [elsewhere other different]
      exact progress.others other foreign
    · intro other members named
      by_cases same : other = poolKey
      · subst same
        by_cases equal : members = groups
        · subst equal
          rw [if_pos List.mem_cons_self, lists, get?_refile_of_ne ports (nonempty members named),
            getD_eraseGroup, if_pos rfl, Dict.get?_erase_self]
        · rw [kept _ (nonempty members named) (by simpa using equal),
            progress.named other members named]
          simp [equal]
      · rw [elsewhere other same, progress.named other members named]
        simp [same]
    · intro other group unempty unnamed
      by_cases same : other = poolKey
      · subst same
        have different : group ≠ some groups := by
          rintro rfl
          exact unnamed groups rfl names
        rw [kept group unempty different]
        exact progress.unnamed other group unempty unnamed
      · rw [elsewhere other same]
        exact progress.unnamed other group unempty unnamed
    · intro other port
      by_cases same : other = poolKey
      · subst same
        have erased : ((pools.availablePortsPools.getD other ∅).erase (some groups)).getD
            (some []) [] = (world.poolPorts other).getD (some []) [] := by
          rw [Dict.getD, Dict.get?_erase, if_neg (nonempty groups names).symm,
            World.poolPorts_of_pools present]
          rfl
        rw [lists, mem_refile, getD_eraseGroup, if_pos rfl, erased, progress.empty,
          moved_cons_iff names, listed]
        tauto
      · rw [elsewhere other same, progress.empty, moved_cons_iff names]
        simp [same]
    · intro other port moved
      change middle.groupsOf port = some []
      rw [groupsOf]
      split
      · rfl
      · rename_i unlisted
        rcases (moved_cons_iff names).mp moved with ⟨rfl, member⟩ | before
        · exact absurd ((listed port).mp member) unlisted
        · exact progress.cleared other port before
    · intro port unmoved
      change middle.groupsOf port = start.groupsOf port
      have unlisted : port ∉ ports := by
        intro member
        exact unmoved poolKey ((moved_cons_iff names).mpr (.inl ⟨rfl, (listed port).mpr member⟩))
      rw [groupsOf, if_neg unlisted]
      apply progress.spared
      intro other moved
      exact unmoved other ((moved_cons_iff names).mpr (.inr moved))

/-- Where Neutron does not, a port of the list is available less often. -/
theorem Progress.lose (progress : Progress sgId netId start done world)
    {groups ports : List String} (names : sgId ∈ groups) (new : (poolKey, some groups) ∉ done)
    (found : (start.poolPorts poolKey).get? (some groups) = some ports) {refused : String}
    (listed : refused ∈ ports)
    (refuses : ¬start.Updates answers (.updateGroups refused) refused) :
    ∃ exception after lost,
      exec (removeGroup answers poolKey (some groups)) world = (.error exception, after) ∧
        after.available lost < start.available lost := by
  rcases progress.present with ⟨pools, present⟩
  have foundNow := progress.found_of_present present names new found
  have refusesNow : ¬(world.withPools (pools.eraseGroup poolKey (some groups))).Updates answers
      (.updateGroups refused) refused :=
    fun both => refuses ⟨both.1, (progress.inNeutron refused).mp both.2⟩
  rcases exec_clearPorts_of_refused poolKey listed refusesNow (World.pools_withPools world _) with
    ⟨exception, after, lost, member, _, raised, kept⟩
  refine ⟨exception, after, lost, ?_, ?_⟩
  · rw [exec_removeGroup present foundNow]
    exact exec_bind_of_error raised
  · have removed := available_eraseGroup foundNow lost
    have positive : 0 < ports.count lost := List.count_pos_iff.mpr member
    rw [kept, ← progress.available, World.available_of_pools present, World.available_of_pools rfl]
    omega

/-! ## A whole removal -/

/-- The pool and the key of a list. -/
def place (turn : (PoolKey × PoolPorts) × SgKey) : PoolKey × SgKey :=
  (turn.1.1, turn.2)

/-- Neutron carries out the updates of the ports of a list, if that names the group. -/
def TurnUpdates (answers : Answers) (sgId : String) (start : World)
    (turn : (PoolKey × PoolPorts) × SgKey) : Prop :=
  ∀ groups ∈ turn.2, sgId ∈ groups → ∀ port ∈ turn.1.2.getD turn.2 [],
    start.Updates answers (.updateGroups port) port

/-- Neutron carries out the updates that the removal comes to: those up to the first list whose
key is no tuple. -/
def UpdatesReached (answers : Answers) (sgId : String) (start : World)
    (turns : List ((PoolKey × PoolPorts) × SgKey)) : Prop :=
  ∀ earlier turn later, turns = earlier ++ turn :: later → none ∉ earlier.map Prod.snd →
    TurnUpdates answers sgId start turn

/-- The ways in which a removal may end. -/
inductive Removal (answers : Answers) (sgId netId : String) (start : World)
    (done : List (PoolKey × SgKey)) (turns : List ((PoolKey × PoolPorts) × SgKey)) :
    Except PyException PUnit × World → Prop
  | finished {final : World} (keyed : none ∉ turns.map Prod.snd)
      (reached : UpdatesReached answers sgId start turns)
      (progress : Progress sgId netId start ((turns.map place).reverse ++ done) final) :
      Removal answers sgId netId start done turns (.ok ⟨⟩, final)
  | stopped {exception : PyException} {final : World} {some_ : List (PoolKey × SgKey)}
      (unkeyed : none ∈ turns.map Prod.snd) (reached : UpdatesReached answers sgId start turns)
      (progress : Progress sgId netId start some_ final) :
      Removal answers sgId netId start done turns (.error exception, final)
  | lost {exception : PyException} {final : World} {port : String}
      (unreached : ¬UpdatesReached answers sgId start turns)
      (fewer : final.available port < start.available port) :
      Removal answers sgId netId start done turns (.error exception, final)

theorem updatesReached_cons (turn : (PoolKey × PoolPorts) × SgKey)
    (rest : List ((PoolKey × PoolPorts) × SgKey)) :
    UpdatesReached answers sgId start (turn :: rest) ↔
      TurnUpdates answers sgId start turn ∧
        (turn.2 ≠ none → UpdatesReached answers sgId start rest) := by
  unfold UpdatesReached
  rw [forall_places_cons fun earlier turn => none ∉ earlier.map Prod.snd →
    TurnUpdates answers sgId start turn]
  constructor
  · rintro ⟨first, others⟩
    refine ⟨first List.not_mem_nil, ?_⟩
    intro keyed earlier other later same before
    apply others earlier other later same
    rw [List.map_cons, List.mem_cons, not_or]
    exact ⟨Ne.symm keyed, before⟩
  · rintro ⟨first, others⟩
    refine ⟨fun _ => first, ?_⟩
    intro earlier other later same before
    rw [List.map_cons, List.mem_cons, not_or] at before
    exact others (Ne.symm before.1) earlier other later same before.2

/-- What comes of the other lists comes of all of them, when the first one has been dealt
with. -/
theorem Removal.cons {turn : (PoolKey × PoolPorts) × SgKey}
    {rest : List ((PoolKey × PoolPorts) × SgKey)} {result : Except PyException PUnit × World}
    (removal : Removal answers sgId netId start (place turn :: done) rest result)
    (keyed : turn.2 ≠ none) (updates : TurnUpdates answers sgId start turn) :
    Removal answers sgId netId start done (turn :: rest) result := by
  have reached_iff : UpdatesReached answers sgId start (turn :: rest) ↔
      UpdatesReached answers sgId start rest := by
    rw [updatesReached_cons]
    constructor
    · exact fun both => both.2 keyed
    · exact fun reached => ⟨updates, fun _ => reached⟩
  cases removal with
  | finished keyedThen reached progress =>
      refine .finished ?_ (reached_iff.mpr reached) ?_
      · rw [List.map_cons, List.mem_cons, not_or]
        exact ⟨Ne.symm keyed, keyedThen⟩
      · rw [List.map_cons, List.reverse_cons, List.append_assoc]
        exact progress
  | stopped unkeyed reached progress =>
      exact .stopped (List.mem_cons_of_mem _ unkeyed) (reached_iff.mpr reached) progress
  | lost unreached fewer => exact .lost (mt reached_iff.mp unreached) fewer

/-- The ways in which the turn for a list may end. -/
inductive TurnEnds (answers : Answers) (sgId netId : String) (start : World)
    (done : List (PoolKey × SgKey)) (turn : (PoolKey × PoolPorts) × SgKey) :
    Except PyException PUnit × World → Prop
  | finished {after : World} (keyed : turn.2 ≠ none) (updates : TurnUpdates answers sgId start turn)
      (progress : Progress sgId netId start (place turn :: done) after) :
      TurnEnds answers sgId netId start done turn (.ok ⟨⟩, after)
  | stopped {exception : PyException} {after : World} (unkeyed : turn.2 = none)
      (progress : Progress sgId netId start done after) :
      TurnEnds answers sgId netId start done turn (.error exception, after)
  | lost {exception : PyException} {after : World} {port : String}
      (refused : ¬TurnUpdates answers sgId start turn)
      (fewer : after.available port < start.available port) :
      TurnEnds answers sgId netId start done turn (.error exception, after)

theorem removeTurn_ends {turn : (PoolKey × PoolPorts) × SgKey}
    (network : turn.1.1.netId = some netId) (lists : start.poolPorts turn.1.1 = turn.1.2)
    (member : turn.2 ∈ turn.1.2) (new : place turn ∉ done)
    (progress : Progress sgId netId start done world) :
    TurnEnds answers sgId netId start done turn (exec (removeTurn answers sgId turn) world) := by
  rcases turn with ⟨⟨poolKey, poolPorts⟩, _ | groups⟩
  · have raised : exec (removeTurn answers sgId ((poolKey, poolPorts), none)) world =
        (.error .typeError, world) := rfl
    rw [raised]
    exact .stopped rfl progress
  · by_cases names : sgId ∈ groups
    · rcases Dict.mem_iff_exists_get?.mp member with ⟨ports, found⟩
      have foundThere : (start.poolPorts poolKey).get? (some groups) = some ports := by
        rw [lists]
        exact found
      have ports_eq : poolPorts.getD (some groups) [] = ports := Dict.getD_of_get?_eq_some [] found
      rw [removeTurn, removeSgFromGroup, if_pos names]
      by_cases updates : ∀ port ∈ ports, start.Updates answers (.updateGroups port) port
      · rcases progress.remove network names new foundThere updates with ⟨after, ran, next⟩
        rw [ran]
        refine .finished (Option.some_ne_none groups) ?_ next
        rintro _ ⟨⟩ _ port inList
        rw [ports_eq] at inList
        exact updates port inList
      · simp only [not_forall] at updates
        rcases updates with ⟨refused, inList, refuses⟩
        rcases progress.lose names new foundThere inList refuses with
          ⟨exception, after, lost, raised, fewer⟩
        rw [raised]
        refine .lost ?_ fewer
        intro reached
        apply refuses
        apply reached groups rfl names refused
        rw [ports_eq]
        exact inList
    · have skipped : exec (removeTurn answers sgId ((poolKey, poolPorts), some groups)) world =
          (.ok ⟨⟩, world) := by
        rw [removeTurn, removeSgFromGroup, if_neg names]
        rfl
      have unnamed : ∀ members ∈ some groups, sgId ∉ members := by
        rintro members ⟨⟩
        exact names
      rw [skipped]
      refine .finished (Option.some_ne_none groups) ?_ (progress.skip unnamed)
      intro members same inList
      exact absurd inList (unnamed members same)

/-- A removal goes from list to list. -/
theorem removal_turns {turns : List ((PoolKey × PoolPorts) × SgKey)}
    (listed : ∀ turn ∈ turns, turn.1.1.netId = some netId ∧
      start.poolPorts turn.1.1 = turn.1.2 ∧ turn.2 ∈ turn.1.2)
    (distinct : (turns.map place).Nodup) (new : ∀ turn ∈ turns, place turn ∉ done)
    (progress : Progress sgId netId start done world) :
    Removal answers sgId netId start done turns
      (exec (turns.forM (removeTurn answers sgId)) world) := by
  induction turns generalizing done world with
  | nil =>
      refine .finished List.not_mem_nil ?_ progress
      intro earlier turn later same
      simp at same
  | cons turn rest ih =>
      rcases listed turn List.mem_cons_self with ⟨network, lists, member⟩
      rw [List.map_cons, List.nodup_cons] at distinct
      have listedThen := fun other later => listed other (List.mem_cons_of_mem _ later)
      have newThen : ∀ other ∈ rest, place other ∉ place turn :: done := by
        intro other later
        rw [List.mem_cons, not_or]
        refine ⟨?_, new other (List.mem_cons_of_mem _ later)⟩
        intro same
        apply distinct.1
        rw [← same]
        exact List.mem_map_of_mem later
      have ends : TurnEnds answers sgId netId start done turn
          (exec (removeTurn answers sgId turn) world) :=
        removeTurn_ends network lists member (new turn List.mem_cons_self) progress
      rw [forM_cons_eq]
      generalize ran : exec (removeTurn answers sgId turn) world = result at ends
      cases ends with
      | finished keyed updates next =>
          rw [exec_bind_of_ok ran]
          exact (ih listedThen distinct.2 newThen next).cons keyed updates
      | stopped unkeyed stays =>
          have updates : TurnUpdates answers sgId start turn := by
            intro groups keyed
            rw [unkeyed] at keyed
            cases keyed
          rw [exec_bind_of_error ran]
          refine .stopped ?_ ((updatesReached_cons turn rest).mpr
            ⟨updates, fun keyed => absurd unkeyed keyed⟩) stays
          rw [← unkeyed]
          exact List.mem_cons_self
      | lost refused fewer =>
          rw [exec_bind_of_error ran]
          exact .lost (fun reached => refused ((updatesReached_cons turn rest).mp reached).1) fewer

/-! ## When a removal does what it should -/

/-- A removal can be carried out: no update that it comes to fails; and if Neutron succeeds, all
keys of the network are tuples, no port that is filed without the group has it, and no port is
available twice. -/
structure Removable (answers : Answers) (sgId netId : String) (before : World) : Prop where
  reached : UpdatesReached answers sgId before (before.networkLists netId)
  orderly : before.UpdatesPooled answers →
    before.pools.isSome = true ∧
      (∀ turn ∈ before.networkLists netId, turn.2 ≠ none ∧
        ((∀ groups ∈ turn.2, sgId ∉ groups) → ∀ port ∈ turn.1.2.getD turn.2 [],
          ∀ groups ∈ before.groupsOf port, sgId ∉ groups)) ∧
      ∀ port, before.available port ≤ 1

theorem available_pos_of_getD {port : String} {group : SgKey}
    (listed : port ∈ (pools.availablePortsPools.getD poolKey ∅).getD group []) :
    0 < pools.available port := by
  rw [Pools.available_pos_iff]
  cases pool : pools.availablePortsPools.get? poolKey with
  | none =>
      rw [Dict.getD_of_get?_eq_none ∅ pool] at listed
      exact absurd listed List.not_mem_nil
  | some poolPorts =>
      rw [Dict.getD_of_get?_eq_some ∅ pool] at listed
      cases found : poolPorts.get? group with
      | none =>
          rw [Dict.getD_of_get?_eq_none [] found] at listed
          exact absurd listed List.not_mem_nil
      | some ports =>
          rw [Dict.getD_of_get?_eq_some [] found] at listed
          exact ⟨poolKey, poolPorts, group, ports, pool, found, listed⟩

/-- A port of two lists is available twice. -/
theorem two_le_available (present : world.pools = some pools) {port : String}
    {otherKey : PoolKey} {group other : SgKey}
    (first : port ∈ (world.poolPorts poolKey).getD group [])
    (second : port ∈ (world.poolPorts otherKey).getD other [])
    (different : (poolKey, group) ≠ (otherKey, other)) : 2 ≤ world.available port := by
  rw [World.poolPorts_of_pools present] at first second
  rw [World.available_of_pools present]
  cases found : (pools.availablePortsPools.getD poolKey ∅).get? group with
  | none =>
      rw [Dict.getD_of_get?_eq_none [] found] at first
      exact absurd first List.not_mem_nil
  | some ports =>
      rw [Dict.getD_of_get?_eq_some [] found] at first
      have removed := available_eraseGroup found port
      have inList : 0 < ports.count port := List.count_pos_iff.mpr first
      have still : port ∈
          ((pools.eraseGroup poolKey group).availablePortsPools.getD otherKey ∅).getD other [] := by
        rw [getD_eraseGroup]
        split
        · rename_i same
          subst same
          have distinct : other ≠ group := by
            rintro rfl
            exact different rfl
          rw [Dict.getD, Dict.get?_erase, if_neg distinct]
          exact second
        · exact second
      have left := available_pos_of_getD still
      omega

theorem mem_of_mem_getD {poolPorts : PoolPorts} {group : SgKey} {port : String}
    (member : port ∈ poolPorts.getD group []) : group ∈ poolPorts := by
  by_contra absent
  rw [Dict.getD_of_get?_eq_none [] (Dict.not_mem_iff_get?_eq_none.mp absent)] at member
  exact absurd member List.not_mem_nil

theorem mem_networkLists (present : world.pools = some pools) {group : SgKey}
    (network : poolKey.netId = some netId) (member : group ∈ world.poolPorts poolKey) :
    ((poolKey, world.poolPorts poolKey), group) ∈ world.networkLists netId := by
  have lists : world.networkLists netId = pools.networkLists netId := by
    rw [World.networkLists, present]
    rfl
  rw [World.poolPorts_of_pools present] at member ⊢
  rw [lists, mem_networkLists_iff]
  cases pool : pools.availablePortsPools.get? poolKey with
  | none =>
      rw [Dict.getD_of_get?_eq_none ∅ pool] at member
      exact absurd member (Dict.not_mem_empty group)
  | some poolPorts =>
      rw [Dict.getD_of_get?_eq_some ∅ pool] at member ⊢
      exact ⟨network, rfl, member⟩

theorem networkLists_spec (present : world.pools = some pools)
    {turn : (PoolKey × PoolPorts) × SgKey} (listed : turn ∈ world.networkLists netId) :
    turn.1.1.netId = some netId ∧ world.poolPorts turn.1.1 = turn.1.2 ∧ turn.2 ∈ turn.1.2 := by
  have lists : world.networkLists netId = pools.networkLists netId := by
    rw [World.networkLists, present]
    rfl
  rcases turn with ⟨⟨poolKey, poolPorts⟩, group⟩
  rw [lists, mem_networkLists_iff] at listed
  rcases listed with ⟨network, found, member⟩
  refine ⟨network, ?_, member⟩
  rw [World.poolPorts_of_pools present]
  exact Dict.getD_of_get?_eq_some ∅ found

/-- All lists of a network have been dealt with. -/
theorem Progress.cleared_iff (present : before.pools = some pools) {final : World}
    (progress : Progress sgId netId before
      (((before.networkLists netId).map place).reverse ++ []) final) :
    Cleared sgId netId before (.ok ⟨⟩, final) ↔
      (∀ turn ∈ before.networkLists netId, (∀ groups ∈ turn.2, sgId ∉ groups) →
        ∀ port ∈ turn.1.2.getD turn.2 [], ∀ groups ∈ before.groupsOf port, sgId ∉ groups) ∧
      ∀ port, before.available port ≤ 1 := by
  have done {poolKey : PoolKey} {group : SgKey} (network : poolKey.netId = some netId)
      (member : group ∈ before.poolPorts poolKey) :
      (poolKey, group) ∈ ((before.networkLists netId).map place).reverse ++ [] := by
    rw [List.append_nil, List.mem_reverse]
    exact List.mem_map_of_mem (mem_networkLists present network member)
  have carried {port : String}
      (uncarried : ∀ groups ∈ before.groupsOf port, sgId ∉ groups) :
      ∀ groups ∈ final.groupsOf port, sgId ∉ groups := by
    intro groups known
    by_cases moved : ∃ poolKey, Moved sgId before
        (((before.networkLists netId).map place).reverse ++ []) poolKey port
    · rcases moved with ⟨poolKey, moved⟩
      rw [progress.cleared poolKey port moved] at known
      cases known
      exact List.not_mem_nil
    · rw [progress.spared port (not_exists.mp moved)] at known
      exact uncarried groups known
  constructor
  · intro cleared
    have once (port : String) : before.available port ≤ 1 := by
      rcases Nat.eq_zero_or_pos (before.available port) with none_ | positive
      · omega
      · have kept := cleared.once port positive
        simp only [progress.available] at kept
        exact kept.le
    refine ⟨?_, once⟩
    rintro ⟨⟨poolKey, poolPorts⟩, group⟩ listed unnamed port member groups known
    rcases networkLists_spec present listed with ⟨network, lists, _⟩
    simp only at network lists unnamed member
    rw [← lists] at member
    have still : port ∈ (final.poolPorts poolKey).getD group [] := by
      by_cases empty : group = some []
      · subst empty
        exact (progress.empty poolKey port).mpr (.inl member)
      · rw [Dict.getD, progress.unnamed poolKey group empty unnamed]
        exact member
    have unmoved (other : PoolKey) : ¬Moved sgId before
        (((before.networkLists netId).map place).reverse ++ []) other port := by
      rintro ⟨members, names, _, memberToo⟩
      have twice : 2 ≤ before.available port := by
        apply two_le_available present member memberToo
        intro same
        cases same
        exact unnamed members rfl names
      have atMost := once port
      omega
    rw [← progress.spared port unmoved] at known
    exact cleared.uncarried poolKey group port network still groups known
  · rintro ⟨uncarried, once⟩
    constructor
    · rfl
    · intro poolKey group port network member
      by_cases empty : group = some []
      · subst empty
        rcases (progress.empty poolKey port).mp member with before_ | moved
        · apply carried
          apply uncarried _ (mem_networkLists present network (mem_of_mem_getD before_)) _ port before_
          rintro groups ⟨⟩
          exact List.not_mem_nil
        · intro groups known
          rw [progress.cleared poolKey port moved] at known
          cases known
          exact List.not_mem_nil
      · by_cases unnamed : ∀ groups ∈ group, sgId ∉ groups
        · rw [Dict.getD, progress.unnamed poolKey group empty unnamed] at member
          have listed := mem_networkLists present network (mem_of_mem_getD member)
          exact carried (uncarried _ listed unnamed port member)
        · simp only [not_forall, not_not] at unnamed
          rcases unnamed with ⟨groups, same, names⟩
          cases same
          rw [Dict.getD, progress.named poolKey groups names] at member
          split at member
          · exact absurd member List.not_mem_nil
          · rename_i undone
            exact absurd (done network (mem_of_mem_getD member)) undone
    · intro poolKey groups network listed names
      have gone := progress.named poolKey groups names
      rcases Dict.mem_iff_exists_get?.mp listed with ⟨ports, found⟩
      simp only at found
      rw [found] at gone
      split at gone
      · cases gone
      · rename_i undone
        exact undone (done network (Dict.mem_iff_exists_get?.mpr ⟨ports, gone.symm⟩))
    · intro port positive
      have kept := progress.available port
      have atMost := once port
      simp only
      omega
    · intro poolKey groups port network names member
      exact (progress.empty poolKey port).mpr (.inr ⟨groups, names, done network (mem_of_mem_getD member), member⟩)
    · exact progress.others

/-- A removal does what it should, in every state of the pools and whatever Neutron answers,
exactly where it can be carried out. -/
theorem remove_sg_from_pools_iff (answers : Answers) (sgId netId : String) (before : World) :
    RemovesGroup answers sgId netId before ↔ Removable answers sgId netId before := by
  cases present : before.pools with
  | none =>
      have raised : exec (removeSgFromPools answers sgId netId) before =
          (.error .attributeError, before) := by
        unfold removeSgFromPools
        exact exec_getPools_bind_of_none present _
      have pooled : before.UpdatesPooled answers := by
        intro port positive
        rw [World.available, present] at positive
        exact absurd positive (Nat.lt_irrefl 0)
      apply iff_of_false
      · intro removes
        have ended := (removes.clears pooled).ended
        rw [raised] at ended
        cases ended
      · intro removable
        have there := (removable.orderly pooled).1
        rw [present] at there
        cases there
  | some pools =>
      have lists : before.networkLists netId = pools.networkLists netId := by
        rw [World.networkLists, present]
        rfl
      have distinct : ((before.networkLists netId).map place).Nodup := by
        rw [lists]
        exact nodup_networkLists pools netId
      have removal := @removal_turns answers sgId netId before before []
        (before.networkLists netId) (fun _ => networkLists_spec present) distinct
        (fun _ _ => List.not_mem_nil) (Progress.start present)
      have ran : exec (removeSgFromPools answers sgId netId) before =
          exec ((before.networkLists netId).forM (removeTurn answers sgId)) before := by
        rw [lists]
        exact exec_removeSgFromPools present answers sgId netId
      rw [← ran] at removal
      generalize ended : exec (removeSgFromPools answers sgId netId) before = result at removal
      cases removal with
      | finished keyed reached progress =>
          have cleared_iff := progress.cleared_iff present
          constructor
          · rintro ⟨clears, _⟩
            rw [ended] at clears
            refine ⟨reached, fun pooled => ?_⟩
            rcases cleared_iff.mp (clears pooled) with ⟨uncarried, once⟩
            refine ⟨by rw [present]; rfl, fun turn listed => ⟨?_, uncarried turn listed⟩, once⟩
            intro unkeyed
            exact keyed (List.mem_map.mpr ⟨turn, listed, unkeyed⟩)
          · intro removable
            constructor
            · intro pooled
              rw [ended]
              rcases removable.orderly pooled with ⟨_, orderly, once⟩
              exact cleared_iff.mpr ⟨fun turn listed => (orderly turn listed).2, once⟩
            · intro port
              rw [ended]
              exact (progress.available port).ge
      | stopped unkeyed reached progress =>
          rcases List.mem_map.mp unkeyed with ⟨turn, listed, nokey⟩
          constructor
          · rintro ⟨clears, _⟩
            rw [ended] at clears
            refine ⟨reached, fun pooled => ?_⟩
            cases (clears pooled).ended
          · intro removable
            constructor
            · intro pooled
              exact absurd nokey ((removable.orderly pooled).2.1 turn listed).1
            · intro port
              rw [ended]
              exact (progress.available port).ge
      | @lost exception final port unreached fewer =>
          apply iff_of_false
          · intro removes
            have kept := removes.keeps port
            rw [ended] at kept
            simp only at kept
            omega
          · exact fun removable => unreached removable.reached

end

/-! ## A port recycled with `port_debug` -/

/-- Pools of one port, with `port_debug`. -/
def debugged : Options :=
  { onePort with portDebug := true }

/-- A port is created, handed out, released and recycled. -/
def debuggedRecycling : List Action :=
  [.syncPools, .recoverPools {},
    .populatePool { newPortIds := ["port"] } 100 ⟨"node", "project", some "network"⟩
      (scheduledPod "a") oneSubnet ["group"],
    .requestVif {} (scheduledPod "a") "project" oneSubnet ["group"],
    .releaseVif {} (scheduledPod "a") onlyVif "project", .triggerReturnToPool {}]

theorem exists_listed_of_available {world : World} {port : String}
    (positive : 0 < world.available port) : ∃ group, (group, port) ∈ world.listings := by
  cases present : world.pools with
  | none =>
      rw [World.available, present] at positive
      exact absurd positive (Nat.lt_irrefl 0)
  | some pools =>
      rw [World.available_of_pools present] at positive
      rcases Pools.available_pos_iff.mp positive with ⟨poolKey, poolPorts, group, ports, found⟩
      refine ⟨group, ?_⟩
      rw [World.listings_of_pools present]
      exact Pools.mem_listings.mpr ⟨poolKey, poolPorts, ports, found⟩

/-- The port is filed under no tuple, so that the removal of its group raises. -/
theorem remove_sg_from_pools_raises :
    ∃ state, Reached debugged .neutron state ∧
      ¬RemovesGroup {} "group" "network" state.world := by
  have executed : ((runIf (step .neutron debugged) Timely debuggedRecycling (initial ∅)).map
      fun state =>
        (state.world.listings, decide ("port" ∈ state.world.neutron),
          (exec (removeSgFromPools {} "group" "network") state.world).1)) =
      some ([(none, "port")], true, .error .typeError) := by
    decide +kernel
  rcases Option.map_eq_some_iff.mp executed with ⟨state, ran, facts⟩
  simp only [Prod.mk.injEq] at facts
  rcases facts with ⟨listed, there, raised⟩
  refine ⟨state, .neutron (guardedRun_of_runIf ran), ?_⟩
  intro removes
  have pooled : state.world.UpdatesPooled {} := by
    intro port positive
    rcases exists_listed_of_available positive with ⟨group, member⟩
    rw [listed, List.mem_singleton] at member
    cases member
    exact ⟨rfl, of_decide_eq_true there⟩
  have ended := (removes.clears pooled).ended
  rw [raised] at ended
  cases ended

end KuryrKubernetes.Pool

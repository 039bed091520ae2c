import KuryrKubernetes.Pool.SoundPools

/-!
# Freed ports leave the pools

`free_pool` deletes the free subports of trunks and takes each out of the list that its address,
project, network and groups in Neutron lead to.  The port leaves the pools if this is where it
was filed.  `delete_network_pools` takes whole pools, whatever their lists.
-/

namespace KuryrKubernetes.Pool

open KuryrKubernetes.Data
open KuryrKubernetes.Effect
open KuryrKubernetes.Transition

/-! ## Lists of ports -/

/-- `_available_ports_pools[pool_key][group]`, empty where there is none. -/
def Pools.filed (pools : Pools) (poolKey : PoolKey) (group : SgKey) : List String :=
  (pools.availablePortsPools.getD poolKey ∅).getD group []

/-- `Pools.filed` of the driver. -/
def World.filed (world : World) (poolKey : PoolKey) (group : SgKey) : List String :=
  world.pools.elim [] fun pools => pools.filed poolKey group

/-- The pools without a port of a list. -/
def Pools.unfile (pools : Pools) (poolKey : PoolKey) (group : SgKey) (port : String) : Pools :=
  pools.setPool poolKey
    ((pools.availablePortsPools.getD poolKey ∅).set group ((pools.filed poolKey group).erase port))

section

variable {world : World} {pools : Pools} {poolKey : PoolKey} {group : SgKey} {port : String}

theorem World.filed_of_pools (present : world.pools = some pools) :
    world.filed poolKey group = pools.filed poolKey group := by
  rw [World.filed, present]
  rfl

/-- One occurrence of the port is gone. -/
theorem Pools.available_unfile (filed : port ∈ pools.filed poolKey group) (other : String) :
    (pools.unfile poolKey group port).available other + (if other = port then 1 else 0) =
      pools.available other := by
  have inPool := Dict.total_alter (fun _ ports => ports.count other)
    (pools.availablePortsPools.getD poolKey ∅) group [] (fun ports => ports.erase port) rfl
  have inPools := Dict.total_alter
    (fun _ poolPorts => PoolPorts.occurrences poolPorts other) pools.availablePortsPools
    poolKey ∅ (fun poolPorts => poolPorts.alter group [] fun ports => ports.erase port)
    (occurrences_empty other)
  have inList : (List.erase (pools.filed poolKey group) port).count other +
      (if other = port then 1 else 0) = (pools.filed poolKey group).count other := by
    rw [List.count_erase]
    by_cases same : other = port
    · subst same
      have positive := List.count_pos_iff.mpr filed
      simp only [beq_self_eq_true, ite_true]
      omega
    · simp [same, Ne.symm same]
  simp only [Pools.available, Pools.unfile, Pools.setPool, PoolPorts.occurrences, Dict.alter,
    Pools.filed] at *
  omega

/-- The other ports stay in their lists. -/
theorem Pools.mem_filed_unfile {otherKey : PoolKey} {otherGroup : SgKey} {other : String}
    (different : other ≠ port) (filed : other ∈ pools.filed otherKey otherGroup) :
    other ∈ (pools.unfile poolKey group port).filed otherKey otherGroup := by
  by_cases sameKey : otherKey = poolKey
  · subst sameKey
    by_cases sameGroup : otherGroup = group
    · subst sameGroup
      have left := (List.mem_erase_of_ne different).mpr filed
      simpa [Pools.filed, Pools.unfile, Pools.setPool, Dict.getD, Dict.get?_set] using left
    · simpa [Pools.filed, Pools.unfile, Pools.setPool, Dict.getD, Dict.get?_set, sameGroup]
        using filed
  · simpa [Pools.filed, Pools.unfile, Pools.setPool, Dict.getD, Dict.get?_set, sameKey]
      using filed

namespace NestedVifPool

/-- A port is taken out of its list, or an exception that is caught tells that it is not there. -/
theorem exec_unfilePort (present : world.pools = some pools) :
    exec (unfilePort poolKey group port) world =
        (.ok ⟨⟩, world.withPools (pools.unfile poolKey group port)) ∧
          port ∈ pools.filed poolKey group ∨
      (∃ exception, exec (unfilePort poolKey group port) world = (.error exception, world)) ∧
        port ∉ pools.filed poolKey group := by
  rw [unfilePort, exec_bind_of_ok (exec_getPools present)]
  cases pool : pools.availablePortsPools.get? poolKey with
  | none =>
      right
      simp only [Pools.filed]
      rw [Dict.getD_of_get?_eq_none ∅ pool, Dict.getD_of_get?_eq_none [] (Dict.get?_empty group)]
      exact ⟨⟨_, rfl⟩, List.not_mem_nil⟩
  | some poolPorts =>
      cases list : poolPorts.get? group with
      | none =>
          right
          simp only [Pools.filed]
          rw [Dict.getD_of_get?_eq_some ∅ pool, Dict.getD_of_get?_eq_none [] list]
          simp only [list]
          exact ⟨⟨_, rfl⟩, List.not_mem_nil⟩
      | some ports =>
          simp only [Pools.filed, Pools.unfile]
          rw [Dict.getD_of_get?_eq_some ∅ pool, Dict.getD_of_get?_eq_some [] list]
          simp only [list]
          by_cases member : port ∈ ports
          · left
            rw [if_pos member]
            exact ⟨rfl, member⟩
          · right
            rw [if_neg member]
            exact ⟨⟨_, rfl⟩, member⟩

end NestedVifPool

end

/-! ## Freeing a port -/

/-- What freeing a port does to the others: they stay as they were. -/
structure Spares (port : String) (before after : World) : Prop where
  available : ∀ other, other ≠ port → after.available other = before.available other
  recycling : ∀ other, other ≠ port → after.recycling other = before.recycling other
  backed : ∀ other, other ≠ port → before.Backed other → after.Backed other
  filed : ∀ other poolKey group, other ≠ port → other ∈ before.filed poolKey group →
    other ∈ after.filed poolKey group

/-- Freeing a port removes it from the pools, or leaves it as it was. -/
structure Frees (port : String) (before after : World) : Prop extends Spares port before after where
  own : after.pooled port = 0 ∨
    after.pooled port = before.pooled port ∧ (before.Backed port → after.Backed port)

section

variable {before after : World} {pools : Pools} {poolKey : PoolKey} {group : SgKey}
  {port : String}

theorem Frees.refl (port : String) (world : World) : Frees port world world where
  available _ _ := rfl
  recycling _ _ := rfl
  backed _ _ := id
  filed _ _ _ _ := id
  own := .inr ⟨rfl, id⟩

/-- The pools stay sound where a port is freed. -/
theorem World.Sound.frees (sound : before.Sound) (frees : Frees port before after) :
    after.Sound := by
  have others (other : String) (different : other ≠ port) :
      after.pooled other = before.pooled other :=
    World.pooled_eq (frees.available other different) (frees.recycling other different)
  apply sound.of_fewer
  · intro other
    by_cases same : other = port
    · subst same
      rcases frees.own with none | ⟨kept, _⟩
      · rw [none]
        exact Nat.zero_le _
      · exact kept.le
    · exact (others other same).le
  · intro other pooled backed
    by_cases same : other = port
    · subst same
      rcases frees.own with none | ⟨_, kept⟩
      · rw [none] at pooled
        exact absurd pooled (Nat.lt_irrefl 0)
      · exact kept backed
    · exact frees.backed other same backed

/-- Where a port has to be to leave the pools when it is freed: it is not recyclable, and
filed in this list if it is available. -/
def World.InPlace (world : World) (poolKey : PoolKey) (group : SgKey) (port : String) : Prop :=
  world.recycling port = 0 ∧ (world.available port = 0 ∨ port ∈ world.filed poolKey group)

instance (world : World) (poolKey : PoolKey) (group : SgKey) (port : String) :
    Decidable (world.InPlace poolKey group port) :=
  inferInstanceAs (Decidable (_ ∧ (_ ∨ _)))

theorem World.InPlace.spared {other : String} (inPlace : before.InPlace poolKey group other)
    (spares : Spares port before after) (different : other ≠ port) :
    after.InPlace poolKey group other := by
  rcases inPlace with ⟨recycling, places⟩
  constructor
  · rw [spares.recycling other different]
    exact recycling
  · rw [spares.available other different]
    exact places.imp_right (spares.filed other poolKey group different)

/-- The port is gone from Neutron, and nothing else has changed. -/
theorem spares_lose (port : String) (world : World) : Spares port world (world.lose port) where
  available _ _ := rfl
  recycling _ _ := rfl
  backed _ different backed :=
    ⟨backed.vif.of_pools_eq rfl, Dict.mem_erase.mpr ⟨different, backed.inNeutron⟩⟩
  filed _ _ _ _ := id

/-- Its VIF is gone as well. -/
theorem spares_forget (present : before.pools = some pools) (port : String) :
    Spares port before (before.forget pools port) where
  available other _ := by
    rw [World.available_of_pools present]
    rfl
  recycling other _ := by
    rw [World.recycling_of_pools present]
    rfl
  backed _ different backed := backed.forget present different
  filed other poolKey group _ filed := by
    rw [World.filed_of_pools present] at filed
    exact filed

/-- It is in its list no more. -/
theorem spares_unfile (present : before.pools = some pools) (filed : port ∈ pools.filed poolKey group) :
    Spares port before
      ((before.forget pools port).withPools ((pools.forget port).unfile poolKey group port)) := by
  have listed : port ∈ (pools.forget port).filed poolKey group := filed
  have counts := Pools.available_unfile listed
  constructor
  · intro other different
    have count := counts other
    rw [if_neg different] at count
    rw [World.available_of_pools present, World.available_of_pools rfl]
    exact count
  · intro other _
    rw [World.recycling_of_pools present]
    rfl
  · intro other different backed
    have kept := backed.forget present different
    have known : other ∈ (pools.forget port).existingVifs.dict :=
      (World.knows_of_pools rfl).mp kept.vif
    exact ⟨⟨_, rfl, known⟩, kept.inNeutron⟩
  · intro other otherKey otherGroup different found
    rw [World.filed_of_pools present] at found
    have still : other ∈ (pools.forget port).filed otherKey otherGroup := found
    exact Pools.mem_filed_unfile different still

namespace NestedVifPool

/-- The port of a subport and its VIF are deleted, where they are. -/
theorem removePort_cases (answers : Answers) (world : World) :
    let removal : PoolM PUnit := do
      callNeutron answers (.removeSubport port)
      deletePort answers port
      deleteExistingVif port
      unfilePort poolKey group port
    (exec removal world).2 = world ∨
      ¬world.Knows port ∧
        (exec removal world).2 = world.lose port ∨
      ∃ pools, world.pools = some pools ∧
        (exec removal world).2 =
          (exec (unfilePort poolKey group port) (world.forget pools port)).2 := by
  intro removal
  simp only [removal]
  rw [exec_bind, exec_callNeutron]
  cases answers.fails (.removeSubport port) with
  | true => exact .inl rfl
  | false =>
      simp only [Bool.false_eq_true, ite_false]
      rw [exec_bind, exec_deletePort]
      cases answers.fails (.deletePort port) with
      | true => exact .inl rfl
      | false =>
          right
          simp only [Bool.false_eq_true, ite_false]
          cases present : world.pools with
          | none =>
              left
              constructor
              · rintro ⟨pools, same, _⟩
                rw [present] at same
                cases same
              · have lost : World.pools (world.lose port) = none := present
                rw [exec_bind]
                simp [deleteExistingVif, getPools, lost]
          | some pools =>
              have lost : World.pools (world.lose port) = some pools := present
              rw [exec_bind, exec_deleteExistingVif lost]
              by_cases known : port ∈ pools.existingVifs.dict
              · right
                rw [if_pos known]
                exact ⟨pools, rfl, rfl⟩
              · left
                rw [if_neg known, World.knows_of_pools present]
                exact ⟨known, rfl⟩

/-- A port in its place leaves the pools when it is freed. -/
theorem freePort_frees (answers : Answers) (sound : before.Sound)
    (inPlace : before.InPlace poolKey group port) :
    Frees port before (exec (freePort answers poolKey group port) before).2 := by
  have handled : (exec (freePort answers poolKey group port) before).2 =
      (exec (do
        callNeutron answers (.removeSubport port)
        deletePort answers port
        deleteExistingVif port
        unfilePort poolKey group port : PoolM PUnit) before).2 := by
    rw [freePort, exec_tryCatch]
    generalize exec _ before = result
    rcases result with ⟨outcome, world⟩
    cases outcome with
    | ok value => rfl
    | error exception =>
        simp only
        split
        · rfl
        · rfl
  rw [handled]
  rcases removePort_cases answers before with
    unchanged | ⟨unknown, deleted⟩ | ⟨pools, present, removed⟩
  · rw [unchanged]
    exact Frees.refl port before
  · rw [deleted]
    have unpooled : before.pooled port = 0 := by
      by_contra pooled
      exact unknown (sound.backed port (Nat.pos_of_ne_zero pooled)).vif
    exact ⟨spares_lose port before, .inl unpooled⟩
  · rw [removed]
    have forgotten : World.pools (before.forget pools port) = some (pools.forget port) := rfl
    have once := sound.once port
    rcases inPlace with ⟨recycling, places⟩
    rw [World.pooled, recycling] at once
    rcases @exec_unfilePort _ _ poolKey group port forgotten with
      ⟨taken, filed⟩ | ⟨⟨exception, raised⟩, elsewhere⟩
    · rw [taken]
      have count := Pools.available_unfile filed port
      rw [if_pos rfl] at count
      have before' : (pools.forget port).available port = before.available port := by
        rw [World.available_of_pools present]
        rfl
      have waiting : World.recycling ((before.forget pools port).withPools
          ((pools.forget port).unfile poolKey group port)) port = 0 := by
        rw [← recycling, World.recycling_of_pools present]
        rfl
      have unpooled : World.pooled ((before.forget pools port).withPools
          ((pools.forget port).unfile poolKey group port)) port = 0 := by
        rw [World.pooled, World.available_of_pools rfl, waiting]
        omega
      exact ⟨spares_unfile present filed, .inl unpooled⟩
    · rw [raised]
      refine ⟨spares_forget present port, .inl ?_⟩
      rw [World.pooled_forget present, World.pooled, recycling]
      rcases places with none | filed
      · rw [none]
      · rw [World.filed_of_pools present] at filed
        exact absurd filed elsewhere

/-- The subports that are passed by, with their trunks. -/
def chosenSubports (answers : Answers) (trunkIps : List String) :
    List (ParentPort × String × Nat) :=
  (chosenParents answers trunkIps).flatMap fun parent =>
    parent.subPorts.map fun subport => (parent, subport)

/-- No subport is passed by twice. -/
theorem nodup_chosenSubports (answers : Answers) (trunkIps : List String) :
    ((chosenSubports answers trunkIps).map fun item => item.2.1).Nodup := by
  have all : ((chosenSubports answers trunkIps).map fun item => item.2.1) =
      ((chosenParents answers trunkIps).flatMap ParentPort.subPorts).map Prod.fst := by
    rw [chosenSubports]
    induction chosenParents answers trunkIps with
    | nil => rfl
    | cons parent rest ih => simp [List.flatMap_cons, ih, Function.comp_def]
  rw [all]
  have fewer : ((chosenParents answers trunkIps).flatMap ParentPort.subPorts).Sublist
      (answers.trunks.parentPorts.flatMap ParentPort.subPorts) := by
    rw [chosenParents]
    induction answers.trunks.parentPorts with
    | nil => exact List.Sublist.refl _
    | cons parent rest ih =>
        rw [List.filter_cons, List.flatMap_cons]
        split
        · rw [List.flatMap_cons]
          exact ih.append_left _
        · exact ih.trans (List.sublist_append_right _ _)
  exact answers.trunks.subPortsNodup.sublist (fewer.map Prod.fst)

/-- The invariant of the freeing loop: the subports to come are in their places. -/
structure FreeingLoop (answers : Answers) (available : Dict String NeutronPort)
    (rest : List (ParentPort × String × Nat)) (world : World) : Prop where
  distinct : (rest.map fun item => item.2.1).Nodup
  inPlace : ∀ item ∈ rest, ∀ record, available.get? item.2.1 = some record →
    world.InPlace (foundKey answers item.1.ip record) (sortedGroups record.securityGroupIds)
      item.2.1
  sound : world.Sound

theorem FreeingLoop.next {answers : Answers} {available : Dict String NeutronPort}
    {item : ParentPort × String × Nat} {rest : List (ParentPort × String × Nat)}
    (loop : FreeingLoop answers available (item :: rest) before) :
    FreeingLoop answers available rest
      (exec (freeSubport answers available item.1.ip item.2) before).2 := by
  have distinct := loop.distinct
  rw [List.map_cons, List.nodup_cons] at distinct
  have frees : Frees item.2.1 before
      (exec (freeSubport answers available item.1.ip item.2) before).2 := by
    cases found : available.get? item.2.1 with
    | none =>
        simp only [freeSubport, found]
        exact Frees.refl _ before
    | some record =>
        simp only [freeSubport, found]
        exact freePort_frees answers loop.sound (loop.inPlace item List.mem_cons_self record found)
  constructor
  · exact distinct.2
  · intro other member record found
    have different : other.2.1 ≠ item.2.1 := by
      intro same
      exact distinct.1 (same ▸ List.mem_map_of_mem member)
    exact (loop.inPlace other (List.mem_cons_of_mem _ member) record found).spared
      frees.toSpares different
  · exact loop.sound.frees frees

/-- `free_pool` keeps the pools sound if no pooled port is deleted as one of no trunk and the
freed subports are in their places. -/
theorem freePool_sound {options : Options} {answers : Answers} {trunkIps : List String}
    (sound : before.Sound)
    (detached : ∀ port ∈ detachedPorts answers
      (availableSubports options answers before.neutron), before.pooled port = 0)
    (inPlace : ∀ item ∈ chosenSubports answers trunkIps, ∀ record,
      (availableSubports options answers before.neutron).get? item.2.1 = some record →
        before.InPlace (foundKey answers item.1.ip record)
          (sortedGroups record.securityGroupIds) item.2.1) :
    (exec (freePool options answers trunkIps) before).2.Sound := by
  have deleted : (exec ((detachedPorts answers (availableSubports options answers
      before.neutron)).forM (tryDeletePort answers)) before).2.Sound :=
    tryDeletePorts_sound sound detached
  have kept := tryDeletePorts_keepsPools answers
    (detachedPorts answers (availableSubports options answers before.neutron)) before
  rw [freePool, exec_get_bind, exec_bind]
  rcases ran : exec ((detachedPorts answers (availableSubports options answers
    before.neutron)).forM (tryDeletePort answers)) before with ⟨outcome, middle⟩
  rw [ran] at deleted kept
  cases outcome with
  | error exception => exact deleted
  | ok value =>
      have counters (port : String) := World.counters_of_pools_eq kept port
      have start : FreeingLoop answers (availableSubports options answers before.neutron)
          (chosenSubports answers trunkIps) middle := by
        constructor
        · exact nodup_chosenSubports answers trunkIps
        · intro item member record found
          rcases inPlace item member record found with ⟨recycling, places⟩
          constructor
          · rw [(counters item.2.1).2]
            exact recycling
          · have same : middle.pools = before.pools := kept
            rw [(counters item.2.1).1, World.filed, same]
            exact places
        · exact deleted
      obtain ⟨rest, final⟩ := exec_forM_invariant
        (FreeingLoop answers (availableSubports options answers before.neutron)) start
        fun item rest world => FreeingLoop.next
      simp only
      rw [forM_flatMap_map_eq]
      exact final.sound

end NestedVifPool

end

/-! ## Dropping the pools of a network -/

section

variable {answers : Answers} {before : World} {pools : Pools}

theorem count_poolMembers (poolPorts : PoolPorts) (port : String) :
    (poolMembers poolPorts).count port = PoolPorts.occurrences poolPorts port := by
  rw [poolMembers, List.count_flatten, PoolPorts.occurrences, Dict.total, Dict.values,
    List.map_map]
  rfl

namespace NestedVifPool

/-- What the ports of a pool are dropped for: the lists stay, and so do the other ports. -/
structure Drops (ports : List String) (pools : Pools) (before after : World) : Prop where
  left : ∃ next, after.pools = some next ∧
    next.availablePortsPools = pools.availablePortsPools ∧
      next.recyclablePorts = pools.recyclablePorts
  backed : ∀ other, other ∉ ports → before.Backed other → after.Backed other

theorem exec_dropPort {port : String} (present : before.pools = some pools)
    (served : answers.fails (.deletePort port) = false) :
    ∃ after, exec (dropPort answers port) before = (.ok ⟨⟩, after) ∧
      Drops [port] pools before after := by
  have lost (world : World) : exec (deletePort answers port) world = (.ok ⟨⟩, world.lose port) := by
    rw [exec_deletePort, served]
    rfl
  rw [dropPort, exec_bind, exec_tryCatch, exec_deleteExistingVif present]
  by_cases known : port ∈ pools.existingVifs.dict
  · rw [if_pos known]
    refine ⟨before.forget pools port, lost _, ⟨pools.forget port, rfl, rfl, rfl⟩, ?_⟩
    intro other different backed
    exact backed.forget present fun same => different (List.mem_singleton.mpr same)
  · rw [if_neg known]
    refine ⟨before.lose port, lost _, ⟨pools, present, rfl, rfl⟩, ?_⟩
    intro other different backed
    exact (spares_lose port before).backed other
      (fun same => different (List.mem_singleton.mpr same)) backed

/-- All ports are dropped if Neutron deletes them. -/
theorem exec_dropPorts {ports : List String} (present : before.pools = some pools)
    (served : ∀ port ∈ ports, answers.fails (.deletePort port) = false) :
    ∃ after, exec (ports.forM (dropPort answers)) before = (.ok ⟨⟩, after) ∧
      Drops ports pools before after := by
  induction ports generalizing before pools with
  | nil => exact ⟨before, rfl, ⟨pools, present, rfl, rfl⟩, fun _ _ => id⟩
  | cons port ports ih =>
      rcases exec_dropPort present (served port List.mem_cons_self) with ⟨middle, ran, first⟩
      rcases first.left with ⟨next, known, lists, recyclables⟩
      rcases ih known fun later member => served later (List.mem_cons_of_mem _ member) with
        ⟨after, finished, rest⟩
      rcases rest.left with ⟨final, found, sameLists, sameRecyclables⟩
      refine ⟨after, ?_, ⟨final, found, sameLists.trans lists,
        sameRecyclables.trans recyclables⟩, ?_⟩
      · rw [forM_cons_eq, exec_bind_of_ok ran]
        exact finished
      · intro other different backed
        rw [List.mem_cons, not_or] at different
        exact rest.backed other different.2
          (first.backed other (fun member => different.1 (List.mem_singleton.mp member)) backed)

/-- A pool whose ports are dropped is emptied. -/
theorem Drops.sound {poolKey : PoolKey} {poolPorts : PoolPorts} {after : World}
    (sound : before.Sound) (present : before.pools = some pools)
    (pool : pools.availablePortsPools.get? poolKey = some poolPorts)
    (drops : Drops (poolMembers poolPorts) pools before after) {next : Pools}
    (known : after.pools = some next)
    (lists : next.availablePortsPools = pools.availablePortsPools)
    (recyclables : next.recyclablePorts = pools.recyclablePorts) :
    (after.withPools (next.setPool poolKey ∅)).Sound := by
  have counts (port : String) :
      (next.setPool poolKey ∅).available port + (poolMembers poolPorts).count port =
        before.available port := by
    have accounted := Dict.total_set
      (fun _ poolPorts => PoolPorts.occurrences poolPorts port) pools.availablePortsPools poolKey ∅
    rw [Dict.weightAt_of_get?_eq_some pool, occurrences_empty] at accounted
    rw [World.available_of_pools present, count_poolMembers, Pools.available, Pools.setPool, lists]
    exact accounted
  have waits (port : String) : (next.setPool poolKey ∅).recycling port = before.recycling port := by
    rw [World.recycling_of_pools present, Pools.recycling, Pools.setPool, Pools.recycling,
      recyclables]
  have pooledAfter (port : String) : (after.withPools (next.setPool poolKey ∅)).pooled port =
      (next.setPool poolKey ∅).available port + before.recycling port := by
    rw [World.pooled, World.available_of_pools rfl, World.recycling_of_pools rfl, waits]
  apply sound.of_fewer
  · intro port
    have count := counts port
    rw [pooledAfter, World.pooled]
    omega
  · intro port pooled backed
    have count := counts port
    have once := sound.once port
    rw [pooledAfter] at pooled
    rw [World.pooled] at once
    have spared : port ∉ poolMembers poolPorts := by
      intro member
      have positive := List.count_pos_iff.mpr member
      omega
    have kept := drops.backed port spared backed
    have held : port ∈ next.existingVifs.dict := (World.knows_of_pools known).mp kept.vif
    exact ⟨⟨_, rfl, held⟩, kept.inNeutron⟩

/-- The invariant of the loop over the pools: those to come are as they were listed, and Neutron
deletes the ports of the network. -/
structure DroppingLoop (answers : Answers) (netId : String) (rest : List (PoolKey × PoolPorts))
    (world : World) : Prop where
  distinct : (rest.map Prod.fst).Nodup
  listed : ∃ pools, world.pools = some pools ∧
    ∀ item ∈ rest, pools.availablePortsPools.get? item.1 = some item.2
  served : ∀ item ∈ rest, item.1.netId = some netId →
    ∀ port ∈ poolMembers item.2, answers.fails (.deletePort port) = false
  sound : world.Sound

theorem DroppingLoop.next {netId : String} {detaches : List String → Bool}
    {item : PoolKey × PoolPorts} {rest : List (PoolKey × PoolPorts)}
    (loop : DroppingLoop answers netId (item :: rest) before) :
    DroppingLoop answers netId rest
      (exec (dropPool answers netId detaches item) before).2 := by
  have distinct := loop.distinct
  rw [List.map_cons, List.nodup_cons] at distinct
  rcases loop.listed with ⟨pools, present, listed⟩
  have served : ∀ other ∈ rest, other.1.netId = some netId →
      ∀ port ∈ poolMembers other.2, answers.fails (.deletePort port) = false :=
    fun other member => loop.served other (List.mem_cons_of_mem _ member)
  have unchanged {world : World} (known : world.pools = some pools) (sound : world.Sound) :
      DroppingLoop answers netId rest world :=
    ⟨distinct.2, ⟨pools, known, fun other member => listed other (List.mem_cons_of_mem _ member)⟩,
      served, sound⟩
  rw [dropPool]
  split
  · rename_i network
    have located : (exec (getTrunkId answers item.1) before).2.Sound :=
      getTrunkId_sound item.1 loop.sound
    have kept := getTrunkId_keepsPools answers item.1 before
    rw [exec_bind]
    rcases ran : exec (getTrunkId answers item.1) before with ⟨outcome, middle⟩
    rw [ran] at located kept
    have known : middle.pools = some pools := kept.trans present
    cases outcome with
    | error exception => exact unchanged known located
    | ok trunkId =>
        simp only
        split
        · rcases exec_dropPorts known (loop.served item List.mem_cons_self network) with
            ⟨after, dropped, drops⟩
          rcases drops.left with ⟨next, found, lists, recyclables⟩
          rw [exec_bind_of_ok dropped, exec_bind_of_ok (exec_getPools found)]
          have emptied := drops.sound located known (listed item List.mem_cons_self) found lists
            recyclables
          refine ⟨distinct.2, ⟨next.setPool item.1 ∅, rfl, ?_⟩, served, emptied⟩
          intro other member
          have different : other.1 ≠ item.1 := fun same =>
            distinct.1 (same ▸ List.mem_map_of_mem member)
          rw [Pools.setPool, lists, Dict.get?_set_of_ne _ _ different]
          exact listed other (List.mem_cons_of_mem _ member)
        · exact unchanged known located
  · exact unchanged present loop.sound

end NestedVifPool

/-! ## Where recyclable ports are filed -/

/-- A port is filed anew only where it is exempt. -/
def filedFrame (exempt : String × PoolKey → Prop) : Frame World where
  rel before after := ∀ poolKey group port, port ∈ after.filed poolKey group →
    exempt (port, poolKey) ∨ port ∈ before.filed poolKey group
  refl _ _ _ _ := .inr
  trans first second poolKey group port filed :=
    (second poolKey group port filed).elim .inl (first poolKey group port)

variable {exempt : String × PoolKey → Prop}

theorem keepsFiled_of_keepsPools {α : Type} {program : PoolM α}
    (kept : poolsFrame.Keeps program) : (filedFrame exempt).Keeps program := by
  apply kept.mono
  intro before after same poolKey group port filed
  have equal : after.pools = before.pools := same
  rw [World.filed, equal] at filed
  exact .inr filed

theorem changePools_keepsFiled {change : Pools → Pools}
    (lists : ∀ pools, (change pools).availablePortsPools = pools.availablePortsPools) :
    (filedFrame exempt).Keeps (getPools >>= fun pools => setPools (change pools)) := by
  intro world poolKey group port filed
  rw [exec_changePools] at filed
  cases present : world.pools with
  | none =>
      rw [present] at filed
      exact .inr filed
  | some pools =>
      rw [present] at filed
      rw [World.filed_of_pools present, Pools.filed, ← lists pools]
      exact .inr filed

theorem Pools.mem_filed_filePort {poolKey otherKey : PoolKey} {group otherGroup : SgKey}
    {port other : String}
    (filed : other ∈ (filePort pools poolKey group port).filed otherKey otherGroup) :
    (other = port ∧ otherKey = poolKey) ∨ other ∈ pools.filed otherKey otherGroup := by
  by_cases sameKey : otherKey = poolKey
  · subst sameKey
    by_cases sameGroup : otherGroup = group
    · subst sameGroup
      have appended : other ∈ pools.filed otherKey otherGroup ++ [port] := by
        simpa [Pools.filed, filePort, Dict.alter, Dict.getD, Dict.get?_set] using filed
      rcases List.mem_append.mp appended with old | new
      · exact .inr old
      · exact .inl ⟨List.mem_singleton.mp new, rfl⟩
    · right
      simpa [Pools.filed, filePort, Dict.alter, Dict.getD, Dict.get?_set, sameGroup] using filed
  · right
    simpa [Pools.filed, filePort, Dict.alter, Dict.getD, Dict.get?_set, sameKey] using filed

theorem returnPort_keepsFiled {poolKey : PoolKey} {port : String} (group : SgKey)
    (allowed : exempt (port, poolKey)) :
    (filedFrame exempt).Keeps (returnPort poolKey group port) := by
  intro world otherKey otherGroup other filed
  rw [exec_returnPort] at filed
  cases present : world.pools with
  | none =>
      rw [present] at filed
      exact .inr filed
  | some pools =>
      rw [present] at filed
      have listed : other ∈ (filePort pools poolKey group port).filed otherKey otherGroup := filed
      rw [World.filed_of_pools present]
      rcases Pools.mem_filed_filePort listed with ⟨rfl, rfl⟩ | old
      · exact .inl allowed
      · exact .inr old

theorem deleteExistingVif_keepsFiled (port : String) :
    (filedFrame exempt).Keeps (deleteExistingVif port) := by
  intro world poolKey group other filed
  cases present : world.pools with
  | none =>
      have unchanged : (exec (deleteExistingVif port) world).2 = world := by
        simp [deleteExistingVif, getPools, present]
      rw [unchanged] at filed
      exact .inr filed
  | some pools =>
      rw [exec_deleteExistingVif present] at filed
      split at filed
      · rw [World.filed_of_pools present]
        exact .inr filed
      · exact .inr filed

/-- Recycling files a port only in the pool it waits for. -/
theorem recyclePort_keepsFiled (options : Options) (answers : Answers) (groupOf : String → SgKey)
    {port : String} {poolKey : PoolKey} (allowed : exempt (port, poolKey)) :
    (filedFrame exempt).Keeps (recyclePort .nested options answers groupOf port poolKey) := by
  have renames : (filedFrame exempt).Keeps (tryRename .nested options answers port) := by
    apply keepsFiled_of_keepsPools
    exact Frame.Keeps.tryCatch
      ((renameRecyclable_keepsPools _ _ _ _).bind fun _ => Frame.keeps_pure _)
      fun _ => Frame.Keeps.ite (Frame.keeps_pure _) (Frame.keeps_throw _)
  have drops : (filedFrame exempt).Keeps (dropRecyclable port) :=
    changePools_keepsFiled fun _ => rfl
  apply (getPools_keeps _).bind
  intro pools
  apply Frame.Keeps.ite
  · apply renames.bind
    intro renamed
    exact Frame.Keeps.ite (returnPort_keepsFiled _ allowed) (Frame.keeps_pure _)
  · apply (keepsFiled_of_keepsPools (getTrunkId_keepsPools answers poolKey)).bind
    intro trunkId
    apply Frame.Keeps.bind
    · apply Frame.Keeps.tryCatch
      · apply (callNeutron_keeps _ _ _).bind
        intro _
        apply (deleteExistingVif_keepsFiled port).bind
        intro _
        exact (keepsFiled_of_keepsPools (deletePort_keepsPools answers port)).bind
          fun _ => Frame.keeps_pure _
      · intro exception
        exact Frame.Keeps.ite (Frame.keeps_pure _)
          (Frame.Keeps.ite (Frame.keeps_pure _) (Frame.keeps_throw _))
    · intro done
      exact Frame.Keeps.ite drops (Frame.keeps_pure _)

theorem triggerReturnToPool_files (options : Options) (answers : Answers) (before : World) :
    (filedFrame (· ∈ before.recyclables)).rel before
      (exec (triggerReturnToPool .nested options answers) before).2 := by
  rw [triggerReturnToPool, exec_get_bind]
  cases present : before.pools with
  | none => exact (filedFrame _).refl before
  | some pools =>
      have turns : (filedFrame (· ∈ before.recyclables)).Keeps
          (pools.recyclablePorts.items.forM fun item =>
            recyclePort .nested options answers
              (currentGroups .nested options pools before.neutron) item.1 item.2) := by
        apply Frame.Keeps.forM
        intro item member
        apply recyclePort_keepsFiled
        rw [World.recyclables, present]
        exact member
      exact turns before

theorem mem_poolMembers_iff {poolKey : PoolKey} {poolPorts : PoolPorts} {port : String}
    (pool : pools.availablePortsPools.get? poolKey = some poolPorts) :
    port ∈ poolMembers poolPorts ↔ ∃ group, port ∈ pools.filed poolKey group := by
  rw [poolMembers, List.mem_flatten]
  simp only [Pools.filed, Dict.getD_of_get?_eq_some ∅ pool]
  constructor
  · rintro ⟨ports, listed, member⟩
    rcases Dict.mem_values_iff.mp listed with ⟨group, found⟩
    refine ⟨group, ?_⟩
    rw [Dict.getD_of_get?_eq_some [] found]
    exact member
  · rintro ⟨group, member⟩
    cases found : poolPorts.get? group with
    | none =>
        rw [Dict.getD_of_get?_eq_none [] found] at member
        exact absurd member List.not_mem_nil
    | some ports =>
        rw [Dict.getD_of_get?_eq_some [] found] at member
        exact ⟨ports, Dict.mem_values_iff.mpr ⟨group, found⟩, member⟩

/-- The ports of the pools of a network, and those that wait for them. -/
def World.networkPorts (world : World) (netId : String) : List String :=
  (world.recyclables.filter fun item => item.2.netId = some netId).map Prod.fst ++
    world.pools.elim [] fun pools =>
      (pools.availablePortsPools.items.filter fun item => item.1.netId = some netId).flatMap
        fun item => poolMembers item.2

theorem mem_networkPorts_of_recyclables {world : World} {netId : String} {poolKey : PoolKey}
    {port : String} (waits : (port, poolKey) ∈ world.recyclables)
    (network : poolKey.netId = some netId) : port ∈ world.networkPorts netId := by
  apply List.mem_append_left
  exact List.mem_map.mpr ⟨(port, poolKey), List.mem_filter.mpr ⟨waits, decide_eq_true network⟩, rfl⟩

theorem mem_networkPorts_of_filed {world : World} {netId : String} {poolKey : PoolKey}
    {group : SgKey} {port : String} (filed : port ∈ world.filed poolKey group)
    (network : poolKey.netId = some netId) : port ∈ world.networkPorts netId := by
  apply List.mem_append_right
  cases present : world.pools with
  | none =>
      rw [World.filed, present] at filed
      exact absurd filed List.not_mem_nil
  | some pools =>
      rw [World.filed_of_pools present] at filed
      cases pool : pools.availablePortsPools.get? poolKey with
      | none =>
          rw [Pools.filed, Dict.getD_of_get?_eq_none ∅ pool,
            Dict.getD_of_get?_eq_none [] (Dict.get?_empty group)] at filed
          exact absurd filed List.not_mem_nil
      | some poolPorts =>
          have member := (mem_poolMembers_iff pool).mpr ⟨group, filed⟩
          have chosen : (poolKey, poolPorts) ∈ pools.availablePortsPools.items.filter
              fun item => item.1.netId = some netId :=
            List.mem_filter.mpr ⟨Dict.mem_items_iff.mpr pool, decide_eq_true network⟩
          exact List.mem_flatMap.mpr ⟨(poolKey, poolPorts), chosen, member⟩

namespace NestedVifPool

/-- `delete_network_pools` keeps the pools sound if Neutron deletes the ports of the network and
of full pools. -/
theorem deleteNetworkPools_sound {options : Options} {netId : String}
    {detaches : List String → Bool} (sound : before.Sound)
    (recycled : options.portsPoolMax = 0 ∨
      ∀ item ∈ before.recyclables, answers.fails (.deletePort item.1) = false)
    (served : ∀ port ∈ before.networkPorts netId, answers.fails (.deletePort port) = false) :
    (exec (deleteNetworkPools options answers netId detaches) before).2.Sound := by
  rw [deleteNetworkPools, exec_get_bind]
  split
  · have returned := triggerReturnToPool_sound sound recycled
    have files := triggerReturnToPool_files options answers before
    rw [exec_bind]
    rcases ran : exec (triggerReturnToPool .nested options answers) before with
      ⟨outcome, middle⟩
    rw [ran] at returned files
    cases outcome with
    | error exception => exact returned
    | ok value =>
        simp only
        cases present : middle.pools with
        | none =>
            rw [exec_bind_of_error (by simp [getPools, present] :
              exec getPools middle = (.error .attributeError, middle))]
            exact returned
        | some pools =>
            rw [exec_bind_of_ok (exec_getPools present)]
            have start : DroppingLoop answers netId pools.availablePortsPools.items middle := by
              refine ⟨pools.availablePortsPools.nodupKeys, ⟨pools, present, ?_⟩, ?_, returned⟩
              · intro item member
                exact Dict.mem_items_iff.mp member
              · intro item member network port listed
                rcases (mem_poolMembers_iff (Dict.mem_items_iff.mp member)).mp listed with
                  ⟨group, filed⟩
                rw [← World.filed_of_pools present] at filed
                apply served
                rcases files item.1 group port filed with waits | old
                · exact mem_networkPorts_of_recyclables waits network
                · exact mem_networkPorts_of_filed old network
            obtain ⟨rest, final⟩ := exec_forM_invariant (DroppingLoop answers netId) start
              fun item rest world => DroppingLoop.next
            exact final.sound
  · exact sound

end NestedVifPool

end

end KuryrKubernetes.Pool

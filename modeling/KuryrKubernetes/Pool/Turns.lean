import KuryrKubernetes.Pool.Pacing
import KuryrKubernetes.Pool.Requests
import KuryrKubernetes.Pool.SoundPools

/-!
# Turns of the recycling loop

The turn of a recyclable port ends in one of a few ways, which the state before it decides: its
pool has room or not, Neutron carries out a call or not, the port has a VIF or not.
-/

namespace KuryrKubernetes.Pool

open KuryrKubernetes.Data
open KuryrKubernetes.Effect

/-! ## What a turn depends on -/

/-- A pool is not full. -/
def Pools.HasRoom (pools : Pools) (options : Options) (poolKey : PoolKey) : Prop :=
  options.portsPoolMax = 0 ∨ (getPoolSize pools poolKey : Int) < options.portsPoolMax

instance (pools : Pools) (options : Options) (poolKey : PoolKey) :
    Decidable (pools.HasRoom options poolKey) :=
  inferInstanceAs (Decidable (_ ∨ _))

/-- The trunk of a pool is known, or Neutron has it. -/
def World.Locates (world : World) (answers : Answers) (poolKey : PoolKey) : Prop :=
  poolKey ∈ world.knownTrunkIds ∨
    answers.fails (.getTrunk poolKey.host) = false ∧
      ∃ parent ∈ answers.trunks.parentPorts, parent.ip = poolKey.host

instance (world : World) (answers : Answers) (poolKey : PoolKey) :
    Decidable (world.Locates answers poolKey) :=
  inferInstanceAs (Decidable (_ ∨ _))

/-- The pools without a port among the recyclable ones. -/
def Pools.letGo (pools : Pools) (port : String) : Pools :=
  { pools with recyclablePorts := pools.recyclablePorts.erase port }

/-- How the turn of a port ends, and on what that depends. -/
inductive Turn (driver : Driver) (options : Options) (answers : Answers) (port : String)
    (poolKey : PoolKey) (group : SgKey) (pools : Pools) (before : World) :
    Except PyException PUnit × World → Prop
  | returned {after : World} (room : pools.HasRoom options poolKey)
      (renames : options.portDebug = true → before.Updates answers (.updateName port) port)
      (alike : before.Alike after) :
      Turn driver options answers port poolKey group pools before
        (.ok ⟨⟩, after.withPools ((filePort pools poolKey group port).letGo port))
  | waits (room : pools.HasRoom options poolKey) (debugging : options.portDebug = true)
      (refused : ¬before.Updates answers (.updateName port) port) :
      Turn driver options answers port poolKey group pools before (.ok ⟨⟩, before)
  | hidden {exception : PyException} (full : ¬pools.HasRoom options poolKey)
      (nested : driver = .nested) (unlocated : ¬before.Locates answers poolKey) :
      Turn driver options answers port poolKey group pools before (.error exception, before)
  | attached {after : World} (full : ¬pools.HasRoom options poolKey) (nested : driver = .nested)
      (located : before.Locates answers poolKey)
      (refused : answers.fails (.removeSubport port) = true) (alike : before.Alike after) :
      Turn driver options answers port poolKey group pools before (.ok ⟨⟩, after)
  | unknown {after : World} (full : ¬pools.HasRoom options poolKey)
      (detached : driver = .nested →
        before.Locates answers poolKey ∧ answers.fails (.removeSubport port) = false)
      (missing : ¬before.Knows port) (alike : before.Alike after) :
      Turn driver options answers port poolKey group pools before
        (.ok ⟨⟩, after.withPools (pools.letGo port))
  | deleted {after : World} (full : ¬pools.HasRoom options poolKey)
      (detached : driver = .nested →
        before.Locates answers poolKey ∧ answers.fails (.removeSubport port) = false)
      (known : before.Knows port) (served : answers.fails (.deletePort port) = false)
      (alike : before.Alike after) :
      Turn driver options answers port poolKey group pools before
        (.ok ⟨⟩, (after.withPools ((pools.forget port).letGo port)).lose port)
  | halfway {after : World} (full : ¬pools.HasRoom options poolKey) (nested : driver = .nested)
      (detached : before.Locates answers poolKey ∧ answers.fails (.removeSubport port) = false)
      (known : before.Knows port) (refused : answers.fails (.deletePort port) = true)
      (alike : before.Alike after) :
      Turn driver options answers port poolKey group pools before
        (.ok ⟨⟩, after.withPools (pools.forget port))
  | raises (full : ¬pools.HasRoom options poolKey) (neutron : driver = .neutron)
      (known : before.Knows port) (refused : answers.fails (.deletePort port) = true) :
      Turn driver options answers port poolKey group pools before
        (.error .sdkException, before.withPools (pools.forget port))

/-! ## How a turn ends -/

section

variable {driver : Driver} {options : Options} {answers : Answers} {port : String}
  {poolKey : PoolKey} {group : SgKey} {pools : Pools} {before : World}

theorem exec_dropRecyclable (present : before.pools = some pools) (port : String) :
    exec (dropRecyclable port) before = (.ok ⟨⟩, before.withPools (pools.letGo port)) := by
  rw [dropRecyclable, exec_changePools, present]
  rfl

theorem exec_tryRename_of_updates (driver : Driver)
    (renames : options.portDebug = true → before.Updates answers (.updateName port) port) :
    ∃ after, exec (tryRename driver options answers port) before = (.ok true, after) ∧
      before.Alike after := by
  have renamed : ∃ after,
      exec (renameRecyclable driver options answers port) before = (.ok ⟨⟩, after) ∧
        before.Alike after := by
    unfold renameRecyclable
    by_cases debugging : options.portDebug = true
    · rw [if_pos debugging]
      cases driver with
      | neutron => exact exec_updatePort_of_updates (renames debugging) _
      | nested => exact exec_updatePort_of_updates (renames debugging) _
    · rw [if_neg debugging]
      exact ⟨before, rfl, .refl before⟩
  rcases renamed with ⟨after, ran, alike⟩
  refine ⟨after, ?_, alike⟩
  rw [tryRename, exec_tryCatch, exec_bind_of_ok ran]
  rfl

theorem exec_tryRename_of_refused (debugging : options.portDebug = true)
    (refused : ¬before.Updates answers (.updateName port) port) :
    exec (tryRename driver options answers port) before = (.ok false, before) := by
  have raised : ∃ exception, exception.isSdkException = true ∧
      exec (renameRecyclable driver options answers port) before =
        (.error exception, before) := by
    unfold renameRecyclable
    rw [if_pos debugging]
    cases driver with
    | neutron => exact exec_updatePort_of_refused refused _
    | nested => exact exec_updatePort_of_refused refused _
  rcases raised with ⟨exception, sdk, ran⟩
  rw [tryRename, exec_tryCatch, exec_bind_of_error ran]
  simp only [sdk, ite_true]
  rfl

/-- A port whose pool has room returns to it, unless it cannot be renamed. -/
theorem renameThenReturn_turns (present : before.pools = some pools)
    (room : pools.HasRoom options poolKey) :
    Turn driver options answers port poolKey group pools before
      (exec (renameThenReturn driver options answers group port poolKey) before) := by
  by_cases renames : options.portDebug = true → before.Updates answers (.updateName port) port
  · rcases exec_tryRename_of_updates driver renames with ⟨after, ran, alike⟩
    have there : after.pools = some pools := alike.pools.trans present
    rw [renameThenReturn, exec_bind_of_ok ran, if_pos rfl, exec_returnPort, there]
    exact .returned room renames alike
  · rcases Classical.not_imp.mp renames with ⟨debugging, refused⟩
    rw [renameThenReturn, exec_bind_of_ok (exec_tryRename_of_refused debugging refused)]
    exact .waits room debugging refused

/-- The bare-metal driver deletes a port that has a VIF. -/
theorem deleteRecyclableNeutron_turns (present : before.pools = some pools)
    (full : ¬pools.HasRoom options poolKey) :
    Turn .neutron options answers port poolKey group pools before
      (exec (deleteRecyclableNeutron answers port) before) := by
  have bare : Driver.neutron = .nested →
      before.Locates answers poolKey ∧ answers.fails (.removeSubport port) = false := nofun
  rw [deleteRecyclableNeutron, exec_bind, exec_tryCatch, exec_bind,
    exec_deleteExistingVif present]
  by_cases known : port ∈ pools.existingVifs.dict
  · have knows := (World.knows_of_pools present).mpr known
    rw [if_pos known]
    simp only [exec_deletePort]
    cases refused : answers.fails (.deletePort port) with
    | true => exact .raises full rfl knows refused
    | false =>
        have dropped : exec (dropRecyclable port) (before.forget pools port) =
            (.ok ⟨⟩, (before.withPools ((pools.forget port).letGo port)).lose port) :=
          exec_dropRecyclable rfl port
        simp only [Bool.false_eq_true, ite_false]
        change Turn _ _ _ _ _ _ _ _ (exec (dropRecyclable port) (before.forget pools port))
        rw [dropped]
        exact .deleted full bare knows refused (.refl before)
  · have missing := mt (World.knows_of_pools present).mp known
    rw [if_neg known]
    simp only [ite_true, exec_pure]
    rw [exec_dropRecyclable present]
    exact .unknown full bare missing (.refl before)

theorem exec_getTrunkId_of_located (located : before.Locates answers poolKey) :
    ∃ trunkId after, exec (getTrunkId answers poolKey) before = (.ok trunkId, after) ∧
      before.Alike after := by
  rw [getTrunkId, exec_get_bind]
  cases known : before.knownTrunkIds.get? poolKey with
  | some trunkId => exact ⟨trunkId, before, rfl, .refl before⟩
  | none =>
      rcases located with recorded | ⟨served, parent, listed, host⟩
      · exact absurd recorded (Dict.not_mem_iff_get?_eq_none.mpr known)
      · simp only [served, Bool.false_eq_true, ite_false]
        cases found : answers.trunks.parentPorts.find? (·.ip = poolKey.host) with
        | none =>
            have other := List.find?_eq_none.mp found parent listed
            simp [host] at other
        | some first =>
            exact ⟨first.trunkId, _, rfl, rfl, fun _ => Iff.rfl⟩

theorem exec_getTrunkId_of_unlocated (unlocated : ¬before.Locates answers poolKey) :
    ∃ exception, exec (getTrunkId answers poolKey) before = (.error exception, before) := by
  have unrecorded : before.knownTrunkIds.get? poolKey = none :=
    Dict.not_mem_iff_get?_eq_none.mp fun recorded => unlocated (.inl recorded)
  rw [getTrunkId, exec_get_bind, unrecorded]
  cases failing : answers.fails (.getTrunk poolKey.host) with
  | true => exact ⟨.k8sNodeTrunkPortFailure, rfl⟩
  | false =>
      simp only [Bool.false_eq_true, ite_false]
      cases found : answers.trunks.parentPorts.find? (·.ip = poolKey.host) with
      | none => exact ⟨.noResource, rfl⟩
      | some parent =>
          have host := List.find?_some found
          have located : before.Locates answers poolKey :=
            .inr ⟨failing, parent, List.mem_of_find?_eq_some found, of_decide_eq_true host⟩
          exact absurd located unlocated

/-- The nested driver detaches a port first, and keeps one that Neutron does not let go. -/
theorem deleteRecyclableNested_turns (present : before.pools = some pools)
    (full : ¬pools.HasRoom options poolKey) :
    Turn .nested options answers port poolKey group pools before
      (exec (deleteRecyclableNested answers poolKey port) before) := by
  by_cases located : before.Locates answers poolKey
  · rcases exec_getTrunkId_of_located located with ⟨trunkId, after, ran, alike⟩
    have there : after.pools = some pools := alike.pools.trans present
    rw [deleteRecyclableNested, exec_bind_of_ok ran, exec_bind, exec_tryCatch, exec_bind,
      exec_callNeutron]
    cases attached : answers.fails (.removeSubport port) with
    | true => exact .attached full rfl located attached alike
    | false =>
        have detached : Driver.nested = .nested →
            before.Locates answers poolKey ∧ answers.fails (.removeSubport port) = false :=
          fun _ => ⟨located, attached⟩
        simp only [Bool.false_eq_true, ite_false]
        rw [exec_bind, exec_deleteExistingVif there]
        by_cases known : port ∈ pools.existingVifs.dict
        · have knows := (World.knows_of_pools present).mpr known
          rw [if_pos known]
          simp only
          rw [exec_bind, exec_deletePort]
          cases refused : answers.fails (.deletePort port) with
          | true => exact .halfway full rfl ⟨located, attached⟩ knows refused alike
          | false =>
              have dropped : exec (dropRecyclable port) (after.forget pools port) =
                  (.ok ⟨⟩, (after.withPools ((pools.forget port).letGo port)).lose port) :=
                exec_dropRecyclable rfl port
              simp only [Bool.false_eq_true, ite_false, exec_pure]
              change Turn _ _ _ _ _ _ _ _
                (exec (dropRecyclable port) (after.forget pools port))
              rw [dropped]
              exact .deleted full detached knows refused alike
        · have missing := mt (World.knows_of_pools present).mp known
          rw [if_neg known]
          simp only [ite_true, exec_pure]
          rw [exec_dropRecyclable there]
          exact .unknown full detached missing alike
  · rcases exec_getTrunkId_of_unlocated located with ⟨exception, raised⟩
    rw [deleteRecyclableNested, exec_bind_of_error raised]
    exact .hidden full rfl located

/-- The ways in which the turn of a port may end. -/
theorem recyclePort_turns (driver : Driver) (options : Options) (answers : Answers)
    (groupOf : String → SgKey) (port : String) (poolKey : PoolKey)
    (present : before.pools = some pools) :
    Turn driver options answers port poolKey (groupOf port) pools before
      (exec (recyclePort driver options answers groupOf port poolKey) before) := by
  unfold recyclePort
  rw [exec_bind_of_ok (exec_getPools present)]
  by_cases room : pools.HasRoom options poolKey
  · have notFull : options.portsPoolMax = 0 ∨
        (getPoolSize pools poolKey : Int) < options.portsPoolMax := room
    rw [if_pos notFull]
    exact renameThenReturn_turns present room
  · have isFull : ¬(options.portsPoolMax = 0 ∨
        (getPoolSize pools poolKey : Int) < options.portsPoolMax) := room
    rw [if_neg isFull]
    cases driver with
    | neutron => exact deleteRecyclableNeutron_turns present room
    | nested => exact deleteRecyclableNested_turns present room

end

/-! ## What a turn changes -/

theorem length_poolMembers (poolPorts : PoolPorts) :
    (poolMembers poolPorts).length = poolPorts.total fun _ ports => ports.length := by
  rw [poolMembers, List.length_flatten, Dict.total, Dict.values, List.map_map]
  rfl

theorem getD_filePort (pools : Pools) (poolKey : PoolKey) (group : SgKey) (port : String)
    (other : PoolKey) :
    (filePort pools poolKey group port).availablePortsPools.getD other ∅ =
      if other = poolKey then
        (pools.availablePortsPools.getD poolKey ∅).alter group [] fun ports => ports ++ [port]
      else
        pools.availablePortsPools.getD other ∅ := by
  simp only [filePort, Dict.alter]
  rw [Dict.getD, Dict.get?_set]
  split
  · rfl
  · rfl

/-- Filing a port makes its pool longer by one. -/
theorem getPoolSize_filePort (pools : Pools) (poolKey : PoolKey) (group : SgKey) (port : String)
    (other : PoolKey) :
    getPoolSize (filePort pools poolKey group port) other =
      getPoolSize pools other + if other = poolKey then 1 else 0 := by
  rw [getPoolSize, getD_filePort]
  split
  · rename_i same
    have longer := Dict.total_alter (fun _ ports => ports.length)
      (pools.availablePortsPools.getD poolKey ∅) group [] (fun ports => ports ++ [port]) rfl
    rw [getPoolSize, same, length_poolMembers, length_poolMembers]
    simp only [List.length_append, List.length_singleton] at longer
    omega
  · rfl

/-- It occurs once more there. -/
theorem occurrences_filePort (pools : Pools) (poolKey : PoolKey) (group : SgKey) (filed : String)
    (other : PoolKey) (port : String) :
    PoolPorts.occurrences
        ((filePort pools poolKey group filed).availablePortsPools.getD other ∅) port =
      PoolPorts.occurrences (pools.availablePortsPools.getD other ∅) port +
        if other = poolKey ∧ port = filed then 1 else 0 := by
  rw [getD_filePort]
  by_cases same : other = poolKey
  · have more := Dict.total_alter (fun _ ports => ports.count port)
      (pools.availablePortsPools.getD poolKey ∅) group [] (fun ports => ports ++ [filed]) rfl
    simp only [count_append_singleton] at more
    simp only [same, if_true, true_and, PoolPorts.occurrences]
    omega
  · rw [if_neg same, if_neg fun both => same both.1]
    rfl

/-- Nothing has changed about a port. -/
structure Untouched (port : String) (before after : World) : Prop where
  filed : ∀ poolKey, PoolPorts.occurrences (after.poolPorts poolKey) port =
    PoolPorts.occurrences (before.poolPorts poolKey) port
  available : after.available port = before.available port
  recycling : after.recycling port = before.recycling port
  knows : after.Knows port ↔ before.Knows port
  inNeutron : port ∈ after.neutron ↔ port ∈ before.neutron

namespace Untouched

variable {port : String} {first second third : World}

theorem refl (port : String) (world : World) : Untouched port world world :=
  ⟨fun _ => rfl, rfl, rfl, Iff.rfl, Iff.rfl⟩

theorem trans (head : Untouched port first second) (tail : Untouched port second third) :
    Untouched port first third :=
  ⟨fun poolKey => (tail.filed poolKey).trans (head.filed poolKey),
    tail.available.trans head.available, tail.recycling.trans head.recycling,
    tail.knows.trans head.knows, tail.inNeutron.trans head.inNeutron⟩

theorem of_alike (alike : first.Alike second) (port : String) :
    Untouched port first second := by
  rcases World.counters_of_pools_eq alike.pools port with ⟨available, recycling⟩
  refine ⟨?_, available, recycling, ?_, alike.neutron port⟩
  · intro poolKey
    rw [World.poolPorts, World.poolPorts, alike.pools]
  · rw [World.Knows, World.Knows, alike.pools]

end Untouched

section

variable {driver : Driver} {options : Options} {answers : Answers} {port : String}
  {poolKey : PoolKey} {group : SgKey} {pools : Pools} {before : World}

/-- The dictionaries of a world that is otherwise alike may change at other ports. -/
theorem untouched_of_pools {other : String} {after : World} {next : Pools}
    (present : before.pools = some pools) (alike : before.Alike after)
    (filed : ∀ key, PoolPorts.occurrences (next.availablePortsPools.getD key ∅) other =
      PoolPorts.occurrences (pools.availablePortsPools.getD key ∅) other)
    (available : next.available other = pools.available other)
    (recycling : other ∈ next.recyclablePorts ↔ other ∈ pools.recyclablePorts)
    (knows : other ∈ next.existingVifs.dict ↔ other ∈ pools.existingVifs.dict) :
    Untouched other before (after.withPools next) := by
  have present' : (after.withPools next).pools = some next := rfl
  constructor
  · intro key
    rw [World.poolPorts_of_pools present', World.poolPorts_of_pools present]
    exact filed key
  · rw [World.available_of_pools present', World.available_of_pools present]
    exact available
  · rw [World.recycling_of_pools present', World.recycling_of_pools present, Pools.recycling,
      Pools.recycling]
    simp only [recycling]
  · rw [World.knows_of_pools present', World.knows_of_pools present]
    exact knows
  · exact alike.neutron other

/-- The turn of a port touches no other one. -/
theorem Turn.untouched {result : Except PyException PUnit × World}
    (turn : Turn driver options answers port poolKey group pools before result)
    (present : before.pools = some pools) {other : String} (different : other ≠ port) :
    Untouched other before result.2 := by
  have letGo (some_ : Pools) :
      other ∈ (some_.letGo port).recyclablePorts ↔ other ∈ some_.recyclablePorts := by
    rw [Pools.letGo, Dict.mem_erase]
    exact and_iff_right different
  have forget : other ∈ (pools.forget port).existingVifs.dict ↔
      other ∈ pools.existingVifs.dict := by
    change other ∈ pools.existingVifs.dict.erase port ↔ _
    rw [Dict.mem_erase]
    exact and_iff_right different
  cases turn with
  | returned room renames alike =>
      apply untouched_of_pools present alike
      · intro key
        have counted := occurrences_filePort pools poolKey group port key other
        rw [if_neg fun both => different both.2] at counted
        exact counted
      · have counted := available_filePort pools poolKey group port other
        rw [if_neg different] at counted
        exact counted
      · exact letGo _
      · exact Iff.rfl
  | waits => exact .refl other before
  | hidden => exact .refl other before
  | attached _ _ _ _ alike => exact .of_alike alike other
  | unknown _ _ _ alike =>
      exact untouched_of_pools present alike (fun _ => rfl) rfl (letGo pools) Iff.rfl
  | @deleted after _ _ _ _ alike =>
      have kept : Untouched other before
          (after.withPools ((pools.forget port).letGo port)) :=
        untouched_of_pools present alike (fun _ => rfl) rfl (letGo _) forget
      refine ⟨kept.filed, kept.available, kept.recycling, kept.knows, ?_⟩
      rw [← kept.inNeutron]
      change other ∈ Dict.erase _ port ↔ _
      rw [Dict.mem_erase]
      exact and_iff_right different
  | halfway _ _ _ _ _ alike =>
      exact untouched_of_pools present alike (fun _ => rfl) rfl Iff.rfl forget
  | raises =>
      exact untouched_of_pools present (.refl before) (fun _ => rfl) rfl Iff.rfl forget

/-- No turn takes an available port. -/
theorem Turn.kept {result : Except PyException PUnit × World}
    (turn : Turn driver options answers port poolKey group pools before result)
    (present : before.pools = some pools) (other : String) :
    before.available other ≤ result.2.available other := by
  by_cases same : other = port
  · subst same
    rw [World.available_of_pools present]
    cases turn with
    | returned =>
        rw [World.available_of_pools rfl]
        have counted := available_filePort pools poolKey group other other
        rw [if_pos rfl] at counted
        change pools.available other ≤ (filePort pools poolKey group other).available other
        omega
    | waits => exact (World.available_of_pools present other).ge
    | hidden => exact (World.available_of_pools present other).ge
    | attached _ _ _ _ alike =>
        exact (World.available_of_pools (alike.pools.trans present) other).ge
    | unknown => exact le_rfl
    | deleted => exact le_rfl
    | halfway => exact le_rfl
    | raises => exact le_rfl
  · exact (turn.untouched present same).available.ge

theorem recycling_letGo (pools : Pools) (port : String) :
    (pools.letGo port).recycling port = 0 := by
  rw [Pools.recycling, if_neg]
  rw [Pools.letGo, Dict.mem_erase]
  exact fun both => both.1 rfl

theorem Turn.pools_isSome {result : Except PyException PUnit × World}
    (turn : Turn driver options answers port poolKey group pools before result)
    (present : before.pools = some pools) : ∃ next, result.2.pools = some next := by
  cases turn with
  | returned => exact ⟨_, rfl⟩
  | waits => exact ⟨pools, present⟩
  | hidden => exact ⟨pools, present⟩
  | attached _ _ _ _ alike => exact ⟨pools, alike.pools.trans present⟩
  | unknown => exact ⟨_, rfl⟩
  | deleted => exact ⟨_, rfl⟩
  | halfway => exact ⟨_, rfl⟩
  | raises => exact ⟨_, rfl⟩

end

/-! ## All turns of a pass -/

section

variable (driver : Driver) (options : Options) (answers : Answers) (groupOf : String → SgKey)

/-- The turns of some ports, one after the other. -/
abbrev turns (items : List (String × PoolKey)) : PoolM Unit :=
  items.forM fun item => recyclePort driver options answers groupOf item.1 item.2

theorem exec_turns_cons (item : String × PoolKey) (rest : List (String × PoolKey))
    (world : World) :
    exec (turns driver options answers groupOf (item :: rest)) world =
      exec (recyclePort driver options answers groupOf item.1 item.2 >>= fun _ =>
        turns driver options answers groupOf rest) world :=
  congrArg (exec · world) (forM_cons_eq _ item rest)

/-- The turns of other ports leave a port alone, and take no available port. -/
theorem turns_untouched (items : List (String × PoolKey)) {before : World} {pools : Pools}
    (present : before.pools = some pools) :
    (∀ port, port ∉ items.map Prod.fst → Untouched port before
      (exec (turns driver options answers groupOf items) before).2) ∧
    ∀ port, before.available port ≤
      (exec (turns driver options answers groupOf items) before).2.available port := by
  induction items generalizing before pools with
  | nil => exact ⟨fun port _ => .refl port before, fun _ => le_rfl⟩
  | cons item rest ih =>
      rw [exec_turns_cons, exec_bind]
      have turn := recyclePort_turns driver options answers groupOf item.1 item.2 present
      rcases ran : exec (recyclePort driver options answers groupOf item.1 item.2) before with
        ⟨outcome, middle⟩
      rw [ran] at turn
      have first : ∀ port, port ∉ (item :: rest).map Prod.fst → Untouched port before middle := by
        intro port other
        have different : port ≠ item.1 := by
          rintro rfl
          exact other List.mem_cons_self
        exact turn.untouched present different
      cases outcome with
      | error exception => exact ⟨first, turn.kept present⟩
      | ok value =>
          rcases turn.pools_isSome present with ⟨next, presentThen⟩
          rcases ih presentThen with ⟨others, kept⟩
          constructor
          · intro port other
            have later : port ∉ rest.map Prod.fst :=
              fun member => other (List.mem_cons_of_mem _ member)
            exact (first port other).trans (others port later)
          · intro port
            exact (turn.kept present port).trans (kept port)

theorem exec_triggerReturnToPool {world : World} {pools : Pools}
    (present : world.pools = some pools) :
    exec (triggerReturnToPool driver options answers) world =
      exec (turns driver options answers (currentGroups driver options pools world.neutron)
        pools.recyclablePorts.items) world := by
  rw [triggerReturnToPool, exec_get_bind, present]

end

end KuryrKubernetes.Pool

import KuryrKubernetes.Data.Places
import KuryrKubernetes.Pool.RecyclingPasses

/-!
# The limit on pooled ports

With a maximum, `_trigger_return_to_pool` returns ports to a pool until it is full, and deletes
the others.  How many ports of a pool come before a port decides whether there is room for it.
-/

namespace KuryrKubernetes.Pool

open KuryrKubernetes.Data
open KuryrKubernetes.Effect

/-! ## What is asked of a pass -/

section

variable (driver : Driver) (options : Options) (answers : Answers)

/-- The groups of the recyclable ports, as they are read at the start of the pass. -/
def World.startGroups (world : World) : String → SgKey :=
  world.pools.elim (fun _ => none) fun pools =>
    currentGroups driver options pools world.neutron

/-- The state after the turns of some ports. -/
def World.afterTurns (world : World) (items : List (String × PoolKey)) : World :=
  (exec (turns driver options answers (world.startGroups driver options) items) world).2

/-- What has become of a recyclable port: it is recyclable no more; where its pool had room in
its turn, it has been recycled into that pool and no other; else it is deleted and forgotten. -/
structure Recycled (port : String) (poolKey : PoolKey) (turn before after : World) : Prop where
  done : after.recycling port = 0
  recycled : (turn.poolSize poolKey : Int) < options.portsPoolMax → ∀ key,
    PoolPorts.occurrences (after.poolPorts key) port =
      PoolPorts.occurrences (before.poolPorts key) port + if key = poolKey then 1 else 0
  deleted : options.portsPoolMax ≤ turn.poolSize poolKey →
    port ∉ after.neutron ∧ ¬after.Knows port ∧ ∀ key,
      PoolPorts.occurrences (after.poolPorts key) port =
        PoolPorts.occurrences (before.poolPorts key) port

/-- A pass leaves no pool larger than the maximum, unless it was before, and does what it should
with each recyclable port. -/
structure LimitsPools (before : World) : Prop where
  bounded : ∀ poolKey,
    ((exec (triggerReturnToPool driver options answers) before).2.poolSize poolKey : Int) ≤
      max options.portsPoolMax (before.poolSize poolKey)
  settled : ∀ earlier port poolKey later,
    before.recyclables = earlier ++ (port, poolKey) :: later →
      Recycled options port poolKey (before.afterTurns driver options answers earlier) before
        (exec (triggerReturnToPool driver options answers) before).2

/-- A port that is to be deleted has a VIF or does not exist, and the nested driver finds the
trunk of its pool. -/
def World.Deletable (world : World) (port : String) (poolKey : PoolKey) : Prop :=
  (world.Knows port ∨ port ∉ world.neutron) ∧
    (driver = .nested → world.Locates answers poolKey)

/-- No pool has room for the port: it is full after those of the earlier ports that belong to
it. -/
def World.Overflows (world : World) (earlier : List (String × PoolKey)) (poolKey : PoolKey) :
    Prop :=
  options.portsPoolMax ≤ world.poolSize poolKey + (earlier.countP (·.2 = poolKey) : Nat)

end

/-! ## Trunks -/

theorem World.poolSize_of_pools {world : World} {pools : Pools}
    (present : world.pools = some pools) (poolKey : PoolKey) :
    world.poolSize poolKey = getPoolSize pools poolKey := by
  rw [World.poolSize, present]
  rfl

/-- Whether a trunk is found for a pool stays the same. -/
def trunkFrame (answers : Answers) (poolKey : PoolKey) : Frame World where
  rel before after := after.Locates answers poolKey ↔ before.Locates answers poolKey
  refl _ := Iff.rfl
  trans first second := second.trans first

section

variable {driver : Driver} {options : Options} {answers : Answers} {groupOf : String → SgKey}
  {port : String} {poolKey : PoolKey} {group : SgKey} {pools : Pools} {before : World}
  {result : Except PyException PUnit × World}

theorem changePools_keepsTrunk (change : Pools → Pools) :
    (trunkFrame answers poolKey).Keeps (getPools >>= fun pools => setPools (change pools)) := by
  intro world
  rw [exec_changePools]
  cases world.pools with
  | none => exact Iff.rfl
  | some pools => exact Iff.rfl

theorem updatePortName_keepsTrunk (port name : String) (deviceId : Option String) :
    (trunkFrame answers poolKey).Keeps (updatePortName answers port name deviceId) := by
  apply (callNeutron_keeps _ _ _).bind
  intro _ world
  rw [exec_get_bind]
  cases world.neutron.get? port with
  | none => exact Iff.rfl
  | some record => exact Iff.rfl

theorem deletePort_keepsTrunk (port : String) :
    (trunkFrame answers poolKey).Keeps (deletePort answers port) := by
  apply (callNeutron_keeps _ _ _).bind
  intro _
  exact Frame.keeps_modify fun _ => Iff.rfl

theorem deleteExistingVif_keepsTrunk (port : String) :
    (trunkFrame answers poolKey).Keeps (deleteExistingVif port) := by
  apply (getPools_keeps _).bind
  intro pools
  cases pools.existingVifs.dict.get? port with
  | none => exact Frame.keeps_throw _
  | some _ => exact Frame.keeps_modify fun _ => Iff.rfl

/-- A trunk that is remembered could be found before. -/
theorem getTrunkId_keepsTrunk (other : PoolKey) :
    (trunkFrame answers poolKey).Keeps (getTrunkId answers other) := by
  intro world
  rw [getTrunkId, exec_get_bind]
  cases world.knownTrunkIds.get? other with
  | some trunkId => exact Iff.rfl
  | none =>
      cases failing : answers.fails (.getTrunk other.host) with
      | true => exact Iff.rfl
      | false =>
          simp only [Bool.false_eq_true, ite_false]
          cases found : answers.trunks.parentPorts.find? (·.ip = other.host) with
          | none => exact Iff.rfl
          | some parent =>
              have listed := List.mem_of_find?_eq_some found
              have host : parent.ip = other.host := by
                simpa using List.find?_some found
              constructor
              · rintro (recorded | asked)
                · rcases Dict.mem_set.mp recorded with same | known
                  · rw [same]
                    exact .inr ⟨failing, parent, listed, host⟩
                  · exact .inl known
                · exact .inr asked
              · rintro (known | asked)
                · exact .inl (Dict.mem_set.mpr (.inr known))
                · exact .inr asked

theorem recyclePort_keepsTrunk (port : String) (turnKey : PoolKey) :
    (trunkFrame answers poolKey).Keeps
      (recyclePort driver options answers groupOf port turnKey) := by
  have drops : (trunkFrame answers poolKey).Keeps (dropRecyclable port) :=
    changePools_keepsTrunk _
  apply (getPools_keeps _).bind
  intro pools
  apply Frame.Keeps.ite
  · apply Frame.Keeps.bind
    · apply Frame.Keeps.tryCatch
      · apply Frame.Keeps.bind
        · apply Frame.Keeps.ite
          · cases driver with
            | neutron => exact updatePortName_keepsTrunk _ _ _
            | nested => exact updatePortName_keepsTrunk _ _ _
          · exact Frame.keeps_pure _
        · exact fun _ => Frame.keeps_pure _
      · intro exception
        exact (Frame.keeps_pure _).ite (Frame.keeps_throw _)
    · intro renamed
      apply Frame.Keeps.ite
      · apply (getPools_keeps _).bind
        intro _
        apply Frame.Keeps.bind
        · exact Frame.keeps_modify fun _ => Iff.rfl
        · exact fun _ => drops
      · exact Frame.keeps_pure _
  · cases driver with
    | neutron =>
        apply Frame.Keeps.bind
        · apply Frame.Keeps.tryCatch
          · exact (deleteExistingVif_keepsTrunk port).bind fun _ => deletePort_keepsTrunk port
          · intro exception
            exact (Frame.keeps_pure _).ite (Frame.keeps_throw _)
        · exact fun _ => drops
    | nested =>
        apply (getTrunkId_keepsTrunk turnKey).bind
        intro _
        apply Frame.Keeps.bind
        · apply Frame.Keeps.tryCatch
          · apply (callNeutron_keeps _ _ _).bind
            intro _
            apply (deleteExistingVif_keepsTrunk port).bind
            intro _
            exact (deletePort_keepsTrunk port).bind fun _ => Frame.keeps_pure _
          · intro exception
            exact (Frame.keeps_pure _).ite ((Frame.keeps_pure _).ite (Frame.keeps_throw _))
        · intro done
          exact drops.ite (Frame.keeps_pure _)

/-! ## One turn -/

/-- A turn makes the pool of its port longer by one, if there is room and the port returns. -/
theorem Turn.poolSize (turn : Turn driver options answers port poolKey group pools before result)
    (present : before.pools = some pools) (other : PoolKey) :
    result.2.poolSize other = before.poolSize other ∨
      other = poolKey ∧ pools.HasRoom options poolKey ∧
        result.2.poolSize other = before.poolSize other + 1 := by
  have size := World.poolSize_of_pools present other
  cases turn with
  | @returned after room renames alike =>
      have grown : (after.withPools ((filePort pools poolKey group port).letGo port)).poolSize
          other = getPoolSize pools other + if other = poolKey then 1 else 0 :=
        getPoolSize_filePort pools poolKey group port other
      by_cases same : other = poolKey
      · rw [if_pos same, ← size] at grown
        exact .inr ⟨same, room, grown⟩
      · rw [if_neg same, ← size] at grown
        exact .inl grown
  | waits => exact .inl rfl
  | hidden => exact .inl rfl
  | attached _ _ _ _ alike =>
      left
      rw [size]
      exact World.poolSize_of_pools (alike.pools.trans present) other
  | unknown => exact .inl size.symm
  | deleted => exact .inl size.symm
  | halfway => exact .inl size.symm
  | raises => exact .inl size.symm

/-- A port keeps waiting where its turn raises. -/
theorem Turn.waits_of_error
    (turn : Turn driver options answers port poolKey group pools before result)
    (present : before.pools = some pools) {exception : PyException}
    (raised : result.1 = .error exception) :
    result.2.recycling port = before.recycling port := by
  cases turn with
  | hidden => rfl
  | raises =>
      rw [World.recycling_of_pools present]
      rfl
  | returned => cases raised
  | waits => cases raised
  | attached => cases raised
  | unknown => cases raised
  | deleted => cases raised
  | halfway => cases raised

theorem hasRoom_iff (positive : 0 < options.portsPoolMax) (present : before.pools = some pools)
    (poolKey : PoolKey) :
    pools.HasRoom options poolKey ↔ (before.poolSize poolKey : Int) < options.portsPoolMax := by
  rw [Pools.HasRoom, World.poolSize_of_pools present]
  constructor
  · rintro (unlimited | room)
    · omega
    · exact room
  · exact .inr

/-- No turn makes a pool larger than the maximum. -/
theorem Turn.bounded (turn : Turn driver options answers port poolKey group pools before result)
    (positive : 0 < options.portsPoolMax) (present : before.pools = some pools)
    (other : PoolKey) :
    (result.2.poolSize other : Int) ≤ max options.portsPoolMax (before.poolSize other) := by
  rcases turn.poolSize present other with same | ⟨rfl, room, grown⟩
  · rw [same]
    exact le_max_right _ _
  · have below := (hasRoom_iff positive present other).mp room
    apply le_max_of_le_left
    omega

section

variable (positive : 0 < options.portsPoolMax) (served : ∀ call, answers.fails call = false)

include positive served

/-- With Neutron at hand the pool grows where there is room. -/
theorem Turn.poolSize_of_served
    (turn : Turn driver options answers port poolKey group pools before result)
    (present : before.pools = some pools) (ended : result.1 = .ok ⟨⟩)
    (named : options.portDebug = true → port ∈ before.neutron) (other : PoolKey) :
    result.2.poolSize other = before.poolSize other +
      if other = poolKey ∧ (before.poolSize poolKey : Int) < options.portsPoolMax then 1
        else 0 := by
  have room_iff := hasRoom_iff positive present poolKey
  have size := World.poolSize_of_pools present other
  cases turn with
  | @returned after room renames alike =>
      have grown : (after.withPools ((filePort pools poolKey group port).letGo port)).poolSize
          other = getPoolSize pools other + if other = poolKey then 1 else 0 :=
        getPoolSize_filePort pools poolKey group port other
      rw [grown, size]
      simp only [room_iff.mp room, and_true]
  | waits _ debugging refused => exact absurd ⟨served _, named debugging⟩ refused
  | hidden => cases ended
  | attached _ _ _ refused =>
      rw [served] at refused
      cases refused
  | unknown full =>
      rw [if_neg fun both => full (room_iff.mpr both.2), size]
      rfl
  | deleted full =>
      rw [if_neg fun both => full (room_iff.mpr both.2), size]
      rfl
  | halfway _ _ _ _ refused =>
      rw [served] at refused
      cases refused
  | raises _ _ _ refused =>
      rw [served] at refused
      cases refused

/-- With Neutron at hand a turn does what it should with its port exactly where there is room,
or the port can be deleted. -/
theorem Turn.recycled_iff
    (turn : Turn driver options answers port poolKey group pools before result)
    (present : before.pools = some pools) (waiting : before.recycling port = 1)
    (named : options.portDebug = true → port ∈ before.neutron) :
    Recycled options port poolKey before before result.2 ↔
      (options.portsPoolMax ≤ before.poolSize poolKey →
        before.Deletable driver answers port poolKey) := by
  have room_iff := hasRoom_iff positive present poolKey
  cases turn with
  | returned room renames alike =>
      have below := room_iff.mp room
      apply iff_of_true
      · refine ⟨recycling_letGo _ port, ?_, fun full => absurd below (not_lt.mpr full)⟩
        intro _ key
        have counted := occurrences_filePort pools poolKey group port key port
        simp only [and_true] at counted
        rw [World.poolPorts_of_pools present]
        exact counted
      · exact fun full => absurd below (not_lt.mpr full)
  | waits _ debugging refused => exact absurd ⟨served _, named debugging⟩ refused
  | hidden full nested unlocated =>
      apply iff_of_false
      · intro recycled
        have gone : before.recycling port = 0 := recycled.done
        omega
      · intro deletable
        have reached := not_lt.mp (mt room_iff.mpr full)
        exact unlocated ((deletable reached).2 nested)
  | attached _ _ _ refused =>
      rw [served] at refused
      cases refused
  | @unknown after full detached missing alike =>
      have reached := not_lt.mp (mt room_iff.mpr full)
      have lists : ∀ key, PoolPorts.occurrences
          ((after.withPools (pools.letGo port)).poolPorts key) port =
            PoolPorts.occurrences (before.poolPorts key) port := by
        intro key
        rw [World.poolPorts_of_pools present]
        rfl
      have still : (after.withPools (pools.letGo port)).Knows port ↔ before.Knows port := by
        rw [World.knows_of_pools present]
        change _ ↔ port ∈ (pools.letGo port).existingVifs.dict
        exact World.knows_of_pools rfl
      constructor
      · intro recycled _
        have absent := mt (alike.neutron port).mpr (recycled.deleted reached).1
        exact ⟨.inr absent, fun nested => (detached nested).1⟩
      · intro deletable
        have absent : port ∉ before.neutron :=
          (deletable reached).1.resolve_left missing
        refine ⟨recycling_letGo pools port, fun below => absurd below (not_lt.mpr reached), ?_⟩
        intro _
        exact ⟨mt (alike.neutron port).mp absent, mt still.mp missing, lists⟩
  | deleted full detached known _ alike =>
      have reached := not_lt.mp (mt room_iff.mpr full)
      apply iff_of_true
      · refine ⟨recycling_letGo _ port, fun below => absurd below (not_lt.mpr reached), ?_⟩
        intro _
        refine ⟨fun member => (Dict.mem_erase.mp member).1 rfl, ?_, ?_⟩
        · intro known
          exact (Dict.mem_erase.mp ((World.knows_of_pools rfl).mp known)).1 rfl
        · intro key
          rw [World.poolPorts_of_pools present]
          rfl
      · exact fun _ => ⟨.inl known, fun nested => (detached nested).1⟩
  | halfway _ _ _ _ refused =>
      rw [served] at refused
      cases refused
  | raises _ _ _ refused =>
      rw [served] at refused
      cases refused

end

/-! ## All turns -/

theorem recycled_congr_after {turn first second : World} (same : Untouched port first second) :
    Recycled options port poolKey turn before second ↔
      Recycled options port poolKey turn before first := by
  constructor
  · rintro ⟨done, recycled, deleted⟩
    simp only [same.recycling, same.filed, same.inNeutron, same.knows] at done recycled deleted
    exact ⟨done, recycled, deleted⟩
  · rintro ⟨done, recycled, deleted⟩
    simp only [← same.recycling, ← same.filed, ← same.inNeutron, ← same.knows]
      at done recycled deleted
    exact ⟨done, recycled, deleted⟩

theorem recycled_congr_before {turn first second after : World}
    (same : Untouched port first second) :
    Recycled options port poolKey turn second after ↔
      Recycled options port poolKey turn first after := by
  constructor
  · rintro ⟨done, recycled, deleted⟩
    simp only [same.filed] at recycled deleted
    exact ⟨done, recycled, deleted⟩
  · rintro ⟨done, recycled, deleted⟩
    simp only [← same.filed] at recycled deleted
    exact ⟨done, recycled, deleted⟩

theorem turns_bounded (positive : 0 < options.portsPoolMax) (items : List (String × PoolKey))
    {before : World} {pools : Pools} (present : before.pools = some pools) (other : PoolKey) :
    ((exec (turns driver options answers groupOf items) before).2.poolSize other : Int) ≤
      max options.portsPoolMax (before.poolSize other) := by
  induction items generalizing before pools with
  | nil => exact le_max_right _ _
  | cons item rest ih =>
      have turn := recyclePort_turns driver options answers groupOf item.1 item.2 present
      rw [exec_turns_cons, exec_bind]
      rcases ran : exec (recyclePort driver options answers groupOf item.1 item.2) before with
        ⟨outcome, middle⟩
      rw [ran] at turn
      have first := turn.bounded positive present other
      cases outcome with
      | error exception => exact first
      | ok value =>
          rcases turn.pools_isSome present with ⟨next, presentThen⟩
          have remaining := ih presentThen
          apply remaining.trans
          exact max_le (le_max_left _ _) first

/-- The deletable ports stay so in the turns of others. -/
theorem deletable_congr {other : String} {otherKey : PoolKey} {first second : World}
    (same : Untouched other first second)
    (trunk : second.Locates answers otherKey ↔ first.Locates answers otherKey) :
    second.Deletable driver answers other otherKey ↔
      first.Deletable driver answers other otherKey := by
  rw [World.Deletable, World.Deletable, same.knows, same.inNeutron, trunk]

/-- A port counts for those that come after it, whether its own pool has room for it or not. -/
theorem overflows_iff {item : String × PoolKey} {earlier : List (String × PoolKey)}
    {first second : World}
    (sizes : ∀ key, second.poolSize key = first.poolSize key +
      if key = item.2 ∧ (first.poolSize item.2 : Int) < options.portsPoolMax then 1 else 0) :
    second.Overflows options earlier poolKey ↔
      first.Overflows options (item :: earlier) poolKey := by
  have size := sizes poolKey
  rw [World.Overflows, World.Overflows, List.countP_cons]
  by_cases same : poolKey = item.2
  · simp only [same, true_and, decide_true, if_true] at size ⊢
    split at size
    · omega
    · omega
  · simp only [same, Ne.symm same, false_and, decide_false, if_false, Bool.false_eq_true] at size ⊢
    omega

/-- The turns do what they should exactly where each port that finds no room can be deleted. -/
theorem turns_recycled_iff (driver : Driver) (groupOf : String → SgKey)
    (positive : 0 < options.portsPoolMax)
    (served : ∀ call, answers.fails call = false) {items : List (String × PoolKey)}
    {before : World} {pools : Pools} (distinct : (items.map Prod.fst).Nodup)
    (present : before.pools = some pools)
    (waiting : ∀ item ∈ items, before.recycling item.1 = 1)
    (named : options.portDebug = true → ∀ item ∈ items, item.1 ∈ before.neutron) :
    (∀ earlier item later, items = earlier ++ item :: later →
        Recycled options item.1 item.2
          (exec (turns driver options answers groupOf earlier) before).2 before
          (exec (turns driver options answers groupOf items) before).2) ↔
      ∀ earlier item later, items = earlier ++ item :: later →
        before.Overflows options earlier item.2 →
          before.Deletable driver answers item.1 item.2 := by
  induction items generalizing before pools with
  | nil =>
      apply iff_of_true
      · intro earlier item later same
        simp at same
      · intro earlier item later same
        simp at same
  | cons item rest ih =>
      rw [List.map_cons, List.nodup_cons] at distinct
      have turn := recyclePort_turns driver options answers groupOf item.1 item.2 present
      have trunks (poolKey : PoolKey) : (trunkFrame answers poolKey).rel before
          (exec (recyclePort driver options answers groupOf item.1 item.2) before).2 :=
        recyclePort_keepsTrunk item.1 item.2 before
      have own := turn.recycled_iff positive served present (waiting item List.mem_cons_self)
        fun debugging => named debugging item List.mem_cons_self
      have sizes := turn.poolSize_of_served positive served present
      rw [forall_places_cons fun earlier other => Recycled options other.1 other.2
        (exec (turns driver options answers groupOf earlier) before).2 before
        (exec (turns driver options answers groupOf (item :: rest)) before).2]
      rw [forall_places_cons fun earlier other => before.Overflows options earlier other.2 →
        before.Deletable driver answers other.1 other.2]
      have unpreceded : before.Overflows options [] item.2 ↔
          options.portsPoolMax ≤ before.poolSize item.2 := by
        simp [World.Overflows]
      rw [unpreceded, ← own]
      simp only [exec_turns_cons, exec_bind]
      rcases ran : exec (recyclePort driver options answers groupOf item.1 item.2) before with
        ⟨outcome, middle⟩
      rw [ran] at turn trunks sizes
      cases outcome with
      | error exception =>
          have waits : ¬Recycled options item.1 item.2 before before middle := by
            intro recycled
            have kept := turn.waits_of_error present rfl
            have gone := recycled.done
            have waited := waiting item List.mem_cons_self
            simp only at kept
            omega
          exact iff_of_false (fun both => waits both.1) fun both => waits both.1
      | ok value =>
          rcases turn.pools_isSome present with ⟨next, presentThen⟩
          have elsewhere : ∀ other ∈ rest, other.1 ≠ item.1 := by
            intro other listed same
            exact distinct.1 (same ▸ List.mem_map_of_mem listed)
          have others : ∀ other ∈ rest, Untouched other.1 before middle :=
            fun other listed => turn.untouched present (elsewhere other listed)
          have waitingThen : ∀ other ∈ rest, middle.recycling other.1 = 1 := by
            intro other listed
            rw [(others other listed).recycling]
            exact waiting other (List.mem_cons_of_mem _ listed)
          have namedThen : options.portDebug = true → ∀ other ∈ rest, other.1 ∈ middle.neutron := by
            intro debugging other listed
            rw [(others other listed).inNeutron]
            exact named debugging other (List.mem_cons_of_mem _ listed)
          have final := (turns_untouched driver options answers groupOf rest presentThen).1 item.1
            distinct.1
          have remaining := ih distinct.2 presentThen waitingThen namedThen
          apply and_congr (recycled_congr_after final)
          constructor
          · intro settled earlier other later same overflows
            have listed : other ∈ rest := same ▸ List.mem_append_right _ List.mem_cons_self
            rw [← deletable_congr (others other listed) (trunks other.2)]
            apply remaining.mp _ earlier other later same
            · exact (overflows_iff (sizes rfl (named · item List.mem_cons_self))).mpr overflows
            · intro before_ another after_ place
              have member : another ∈ rest := place ▸ List.mem_append_right _ List.mem_cons_self
              rw [recycled_congr_before (others another member)]
              exact settled before_ another after_ place
          · intro deletable earlier other later same
            have listed : other ∈ rest := same ▸ List.mem_append_right _ List.mem_cons_self
            rw [← recycled_congr_before (others other listed)]
            apply remaining.mpr _ earlier other later same
            intro before_ another after_ place overflows
            have member : another ∈ rest := place ▸ List.mem_append_right _ List.mem_cons_self
            rw [deletable_congr (others another member) (trunks another.2)]
            apply deletable before_ another after_ place
            exact (overflows_iff (sizes rfl (named · item List.mem_cons_self))).mp overflows

/-! ## A pass -/

end

end KuryrKubernetes.Pool

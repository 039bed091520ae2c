import KuryrKubernetes.Pool.Turns

/-!
# Passes of the recycling loop

`_return_ports_to_pool` calls `_trigger_return_to_pool` again and again, and nobody starts it
anew when it ends.  A port should leave the recyclable ports only for a pool, or because it
exists no more, whatever Neutron refuses.
-/

namespace KuryrKubernetes.Pool

open KuryrKubernetes.Data
open KuryrKubernetes.Effect

/-! ## The loop -/

/-- One pass of the loop: whether Neutron lists the ports, what it answers, and what happens to
the driver and to Neutron while the loop sleeps before it. -/
structure Pass where
  answers : Answers := {}
  listed : Bool := true
  meanwhile : World → World := id

/-- `_trigger_return_to_pool` in one pass: without `port_debug` it first lists ports. -/
def returnPass (driver : Driver) (options : Options) (pass : Pass) : PoolM Unit := do
  let world ← get
  if world.pools.isSome ∧ options.portDebug = false ∧ pass.listed = false then
    throw .sdkException
  else
    triggerReturnToPool driver options pass.answers

/-- `_return_ports_to_pool` for a number of passes. -/
def returnPortsToPool (driver : Driver) (options : Options) (passes : List Pass) : PoolM Unit :=
  passes.forM fun pass => do
    modify pass.meanwhile
    returnPass driver options pass

/-! ## What is asked of the loop -/

/-- No available port is lost, and a port that is recyclable no more has been appended to one
list, or does not exist. -/
structure Accounted (before after : World) : Prop where
  kept : ∀ port, before.available port ≤ after.available port
  left : ∀ port, before.recycling port = 1 → after.recycling port = 0 →
    after.available port = before.available port + 1 ∨
      after.available port = before.available port ∧ port ∉ after.neutron

/-- Every pass accounts for its ports. -/
def AccountsForPorts (driver : Driver) (options : Options) : List Pass → World → Prop
  | [], _ => True
  | pass :: rest, world =>
      let after := (exec (returnPass driver options pass) (pass.meanwhile world)).2
      Accounted (pass.meanwhile world) after ∧ AccountsForPorts driver options rest after

/-! ## When it is met -/

/-- A port is dealt with in its turn: its pool has room; or it has a VIF and Neutron deletes it,
or neither has it a VIF nor does it exist.  The nested driver has to find the trunk, and keeps a
port that stays on it or is not deleted. -/
def TurnFits (driver : Driver) (options : Options) (answers : Answers) (port : String)
    (poolKey : PoolKey) (pools : Pools) (world : World) : Prop :=
  pools.HasRoom options poolKey ∨
    match driver with
    | .neutron =>
        world.Knows port ∧ answers.fails (.deletePort port) = false ∨
          ¬world.Knows port ∧ port ∉ world.neutron
    | .nested =>
        world.Locates answers poolKey ∧
          (answers.fails (.removeSubport port) = true ∨ world.Knows port ∨
            port ∉ world.neutron)

/-- Each port is dealt with in the state that it finds in its turn. -/
def TurnsFit (driver : Driver) (options : Options) (answers : Answers)
    (groupOf : String → SgKey) : List (String × PoolKey) → World → Prop
  | [], _ => True
  | item :: rest, world =>
      (∀ pools ∈ world.pools, TurnFits driver options answers item.1 item.2 pools world) ∧
        TurnsFit driver options answers groupOf rest
          (exec (recyclePort driver options answers groupOf item.1 item.2) world).2

/-- Neutron lists the ports where the driver asks for them, and all turns fit. -/
def PassFits (driver : Driver) (options : Options) (pass : Pass) (world : World) : Prop :=
  ∀ pools ∈ world.pools,
    (options.portDebug = true ∨ pass.listed = true) ∧
      TurnsFit driver options pass.answers
        (currentGroups driver options pools world.neutron) pools.recyclablePorts.items world

/-- All passes fit in the states that they start from. -/
def PassesFit (driver : Driver) (options : Options) : List Pass → World → Prop
  | [], _ => True
  | pass :: rest, world =>
      PassFits driver options pass (pass.meanwhile world) ∧
        PassesFit driver options rest
          (exec (returnPass driver options pass) (pass.meanwhile world)).2

/-! ## One turn -/

/-- A port is recyclable still, has been appended to one list, or does not exist. -/
def Settles (port : String) (before after : World) : Prop :=
  after.recycling port = 0 →
    after.available port = before.available port + 1 ∨
      after.available port = before.available port ∧ port ∉ after.neutron

theorem settles_congr_left {port : String} {first second after : World}
    (same : Untouched port first second) : Settles port second after ↔ Settles port first after := by
  rw [Settles, Settles, same.available]

theorem settles_congr_right {port : String} {before first second : World}
    (same : Untouched port first second) :
    Settles port before second ↔ Settles port before first := by
  rw [Settles, Settles, same.available, same.recycling, same.inNeutron]

section

variable {driver : Driver} {options : Options} {answers : Answers} {port : String}
  {poolKey : PoolKey} {group : SgKey} {pools : Pools} {before : World}
  {result : Except PyException PUnit × World}

/-- The turn of a port goes well exactly where it fits. -/
theorem Turn.settles_iff
    (turn : Turn driver options answers port poolKey group pools before result)
    (present : before.pools = some pools) (waiting : before.recycling port = 1) :
    result.1 = .ok ⟨⟩ ∧ Settles port before result.2 ↔
      TurnFits driver options answers port poolKey pools before := by
  have listed : pools.recycling port = 1 := by
    rw [← World.recycling_of_pools present]
    exact waiting
  cases turn with
  | returned room =>
      apply iff_of_true _ (.inl room)
      refine ⟨rfl, fun _ => .inl ?_⟩
      have counted := available_filePort pools poolKey group port port
      rw [if_pos rfl] at counted
      rw [World.available_of_pools present]
      exact counted
  | waits room =>
      apply iff_of_true _ (.inl room)
      refine ⟨rfl, fun gone => ?_⟩
      change before.recycling port = 0 at gone
      omega
  | hidden full nested unlocated =>
      subst nested
      apply iff_of_false
      · rintro ⟨raised, _⟩
        cases raised
      · rintro (room | ⟨located, _⟩)
        · exact full room
        · exact unlocated located
  | attached full nested located refused alike =>
      subst nested
      apply iff_of_true _ (.inr ⟨located, .inl refused⟩)
      refine ⟨rfl, fun gone => ?_⟩
      rw [World.recycling_of_pools (alike.pools.trans present), listed] at gone
      cases gone
  | @unknown after full detached missing alike =>
      have dropped : Settles port before (after.withPools (pools.letGo port)) ↔
          port ∉ before.neutron := by
        have same : (after.withPools (pools.letGo port)).available port =
            before.available port := by
          rw [World.available_of_pools present]
          rfl
        have gone : (after.withPools (pools.letGo port)).recycling port = 0 :=
          recycling_letGo pools port
        have present' : port ∈ (after.withPools (pools.letGo port)).neutron ↔
            port ∈ before.neutron := alike.neutron port
        rw [Settles, same, gone, present']
        constructor
        · intro settled
          rcases settled rfl with more | ⟨_, absent⟩
          · omega
          · exact absent
        · exact fun absent _ => .inr ⟨rfl, absent⟩
      rw [dropped]
      constructor
      · rintro ⟨_, absent⟩
        right
        cases driver with
        | neutron => exact .inr ⟨missing, absent⟩
        | nested => exact ⟨(detached rfl).1, .inr (.inr absent)⟩
      · intro fits
        refine ⟨rfl, ?_⟩
        rcases fits with room | rest
        · exact absurd room full
        · cases driver with
          | neutron =>
              rcases rest with ⟨knows, _⟩ | ⟨_, absent⟩
              · exact absurd knows missing
              · exact absent
          | nested =>
              rcases rest with ⟨_, refused | knows | absent⟩
              · rw [(detached rfl).2] at refused
                cases refused
              · exact absurd knows missing
              · exact absent
  | deleted full detached knows served alike =>
      apply iff_of_true
      · refine ⟨rfl, fun _ => .inr ⟨?_, ?_⟩⟩
        · rw [World.available_of_pools present]
          rfl
        · intro member
          exact (Dict.mem_erase.mp member).1 rfl
      · right
        cases driver with
        | neutron => exact .inl ⟨knows, served⟩
        | nested => exact ⟨(detached rfl).1, .inr (.inl knows)⟩
  | halfway full nested detached knows refused alike =>
      subst nested
      apply iff_of_true _ (.inr ⟨detached.1, .inr (.inl knows)⟩)
      refine ⟨rfl, fun gone => ?_⟩
      rw [World.recycling_of_pools rfl] at gone
      change pools.recycling port = 0 at gone
      omega
  | raises full neutron knows refused =>
      subst neutron
      apply iff_of_false
      · rintro ⟨raised, _⟩
        cases raised
      · rintro (room | ⟨_, served⟩ | ⟨missing, _⟩)
        · exact full room
        · rw [refused] at served
          cases served
        · exact missing knows

end

/-! ## One pass -/

section

variable (driver : Driver) (options : Options) (answers : Answers) (groupOf : String → SgKey)

/-- All turns go well exactly where each fits. -/
theorem turns_settle_iff {items : List (String × PoolKey)} {before : World} {pools : Pools}
    (distinct : (items.map Prod.fst).Nodup) (present : before.pools = some pools)
    (waiting : ∀ item ∈ items, before.recycling item.1 = 1) :
    (exec (turns driver options answers groupOf items) before).1 = .ok ⟨⟩ ∧
        (∀ item ∈ items, Settles item.1 before
          (exec (turns driver options answers groupOf items) before).2) ↔
      TurnsFit driver options answers groupOf items before := by
  induction items generalizing before pools with
  | nil =>
      apply iff_of_true _ trivial
      exact ⟨rfl, by rintro item ⟨⟩⟩
  | cons item rest ih =>
      rw [List.map_cons, List.nodup_cons] at distinct
      have turn := recyclePort_turns driver options answers groupOf item.1 item.2 present
      have own := turn.settles_iff present (waiting item List.mem_cons_self)
      have elsewhere : ∀ other ∈ rest, other.1 ≠ item.1 := by
        intro other listed same
        exact distinct.1 (same ▸ List.mem_map_of_mem listed)
      have fits : (∀ known ∈ before.pools,
          TurnFits driver options answers item.1 item.2 known before) ↔
            TurnFits driver options answers item.1 item.2 pools before := by
        rw [present]
        exact ⟨fun all => all pools rfl, fun fits known same => Option.some.inj same ▸ fits⟩
      rw [TurnsFit, fits, ← own]
      rw [exec_turns_cons, exec_bind]
      rcases ran : exec (recyclePort driver options answers groupOf item.1 item.2) before with
        ⟨outcome, middle⟩
      rw [ran] at turn
      cases outcome with
      | error exception =>
          apply iff_of_false
          · rintro ⟨raised, _⟩
            cases raised
          · rintro ⟨⟨raised, _⟩, _⟩
            cases raised
      | ok value =>
          rcases turn.pools_isSome present with ⟨next, presentThen⟩
          have others : ∀ other ∈ rest, Untouched other.1 before middle :=
            fun other listed => turn.untouched present (elsewhere other listed)
          have waitingThen : ∀ other ∈ rest, middle.recycling other.1 = 1 := by
            intro other listed
            rw [(others other listed).recycling]
            exact waiting other (List.mem_cons_of_mem _ listed)
          have after := (turns_untouched driver options answers groupOf rest presentThen).1 item.1
            distinct.1
          rw [← ih distinct.2 presentThen waitingThen]
          simp only
          rw [← settles_congr_right after]
          constructor
          · rintro ⟨ended, settled⟩
            refine ⟨⟨trivial, settled item List.mem_cons_self⟩, ended, ?_⟩
            intro other listed
            rw [settles_congr_left (others other listed)]
            exact settled other (List.mem_cons_of_mem _ listed)
          · rintro ⟨⟨_, first⟩, ended, settled⟩
            refine ⟨ended, ?_⟩
            intro other listed
            rcases List.mem_cons.mp listed with rfl | inRest
            · exact first
            · rw [← settles_congr_left (others other inRest)]
              exact settled other inRest

theorem accounted_refl (world : World) : Accounted world world := by
  constructor
  · exact fun _ => le_rfl
  · intro port waiting gone
    omega

/-- A pass ends well exactly where it fits. -/
theorem pass_accounts_iff (pass : Pass) (world : World) :
    (exec (returnPass driver options pass) world).1 = .ok ⟨⟩ ∧
        Accounted world (exec (returnPass driver options pass) world).2 ↔
      PassFits driver options pass world := by
  unfold returnPass PassFits
  rw [exec_get_bind]
  cases present : world.pools with
  | none =>
      have skipped : exec (triggerReturnToPool driver options pass.answers) world =
          (.ok ⟨⟩, world) := by
        rw [triggerReturnToPool, exec_get_bind, present]
        rfl
      rw [if_neg (by simp), skipped]
      apply iff_of_true
      · exact ⟨rfl, accounted_refl world⟩
      · rintro pools ⟨⟩
  | some pools =>
      by_cases unlisted : options.portDebug = false ∧ pass.listed = false
      · rw [if_pos ⟨rfl, unlisted⟩]
        apply iff_of_false
        · rintro ⟨raised, _⟩
          cases raised
        · intro fits
          rcases (fits pools rfl).1 with debugging | listed
          · rw [unlisted.1] at debugging
            cases debugging
          · rw [unlisted.2] at listed
            cases listed
      · have asked : options.portDebug = true ∨ pass.listed = true := by
          cases debugging : options.portDebug with
          | true => exact .inl rfl
          | false =>
              right
              cases listed : pass.listed with
              | true => rfl
              | false => exact absurd ⟨debugging, listed⟩ unlisted
        rw [if_neg fun both => unlisted both.2, exec_triggerReturnToPool _ _ _ present]
        have waiting : ∀ item ∈ pools.recyclablePorts.items, world.recycling item.1 = 1 := by
          intro item listed
          rw [World.recycling_of_pools present, Pools.recycling,
            if_pos (Dict.mem_of_mem_items listed)]
        have settle := turns_settle_iff driver options pass.answers
          (currentGroups driver options pools world.neutron) pools.recyclablePorts.nodupKeys
          present waiting
        have kept := (turns_untouched driver options pass.answers
          (currentGroups driver options pools world.neutron) pools.recyclablePorts.items
          present).2
        constructor
        · rintro ⟨ended, accounted⟩ known same
          cases same
          refine ⟨asked, settle.mp ⟨ended, ?_⟩⟩
          intro item listed
          exact accounted.left item.1 (waiting item listed)
        · intro fits
          rcases settle.mpr (fits pools rfl).2 with ⟨ended, settled⟩
          refine ⟨ended, kept, ?_⟩
          intro port waits
          rw [World.recycling_of_pools present, Pools.recycling] at waits
          have recyclable : port ∈ pools.recyclablePorts := by
            by_contra absent
            rw [if_neg absent] at waits
            cases waits
          rcases Dict.mem_iff_exists_get?.mp recyclable with ⟨poolKey, found⟩
          exact settled (port, poolKey) (Dict.mem_items_iff.mpr found)

/-! ## The whole loop -/

end

/-! ## A full pool -/

namespace FullPool

def poolKey : PoolKey :=
  ⟨"node", "project", some "network"⟩

def record : NeutronPort :=
  { projectId := "project", networkId := "network", subnetId := "subnet", securityGroupIds := [] }

/-- Pools of one port. -/
def options : Options :=
  { portsPoolMax := 1 }

/-- There is one port in the pool, and another one is recyclable. -/
def world : World :=
  { pools := some
      { availablePortsPools := (∅ : Dict PoolKey PoolPorts).set poolKey
          ((∅ : PoolPorts).set (some []) ["first"])
        existingVifs := (VifTable.empty.put { id := "first", network := ⟨"network"⟩ }).put
          { id := "second", network := ⟨"network"⟩ }
        recyclablePorts := (∅ : Dict String PoolKey).set "second" poolKey }
    recoveredPools := true
    knownTrunkIds := (∅ : Dict PoolKey String).set poolKey "trunk"
    neutron := ((∅ : Dict String NeutronPort).set "first" record).set "second" record }

/-- Neutron does not delete the port. -/
def refusal : Pass :=
  { answers := { fails := fun call => call = .deletePort "second" } }

end FullPool

end KuryrKubernetes.Pool

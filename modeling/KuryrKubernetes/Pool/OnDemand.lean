import KuryrKubernetes.Pool.Reuse
import KuryrKubernetes.Pool.Turns

/-!
# Populating a pool on demand

`populate_pool` of the nested driver asks for half of a batch of ports, or for the minimum if that
is more.  Half of a batch is a float, which is no number of ports.
-/

namespace KuryrKubernetes.Pool.NestedVifPool

open KuryrKubernetes.Data
open KuryrKubernetes.Effect

/-! ## What is asked of a population -/

/-- The number of ports that `populate_pool` asks `request_vifs` for, if it does: it leaves a pool
that has any lists, empty ones too, as it is. -/
def askedPorts (options : Options) (world : World) (poolKey : PoolKey) : Option NumPorts :=
  if (world.poolPorts poolKey).items = [] then
    some (givenOrBatch options (some (initialNumPorts options)))
  else
    none

/-- `populate_pool` asks for an integer number of ports, and the pool has the minimum
afterwards. -/
structure FillsPool (options : Options) (answers : Answers) (trunkIp projectId : String)
    (subnets : Dict String Network) (securityGroups : List String) (world : World) : Prop where
  asks : ∃ count,
    askedPorts options world (getPoolKey trunkIp projectId none subnets) = some (.int count)
  fills : ∃ after,
    exec (populatePool options answers trunkIp projectId subnets securityGroups) world =
        (.ok ⟨⟩, after) ∧
      options.portsPoolMin ≤ after.poolSize (getPoolKey trunkIp projectId none subnets)

/-- The pools are recovered, the subnets belong to one network, and Neutron finds the trunk,
creates as many ports as it is asked for, and attaches them. -/
structure Supplied (options : Options) (answers : Answers) (trunkIp : String)
    (subnets : Dict String Network) (world : World) : Prop where
  recovered : world.recoveredPools = true
  pools : world.pools.isSome = true
  trunk : answers.fails (.getTrunk trunkIp) = false
  network : ∃ network, (subnets.values.map Network.id).dedup = [network]
  creates : answers.fails .createPorts = false
  ports : options.portsPoolMin ≤ answers.newPortIds.length
  attaches : answers.fails .addTrunkSubports = false

/-! ## The steps of a population -/

section

variable {options : Options} {answers : Answers} {trunkIp projectId : String}
  {subnets : Dict String Network} {securityGroups : List String} {world : World}

theorem asked_of_lists {poolKey : PoolKey} (lists : (world.poolPorts poolKey).items ≠ []) :
    askedPorts options world poolKey = none :=
  if_neg lists

/-- Half of a batch is an integer only where the minimum is more. -/
theorem givenOrBatch_initialNumPorts (positive : 1 ≤ options.portsPoolMin) :
    givenOrBatch options (some (initialNumPorts options)) =
      if options.portsPoolBatch < 2 * options.portsPoolMin then .int options.portsPoolMin
      else .float options.portsPoolBatch := by
  unfold givenOrBatch initialNumPorts
  dsimp only
  split
  · have nonzero : (NumPorts.int options.portsPoolMin).isZero = false := by
      unfold NumPorts.isZero
      simp only [decide_eq_false_iff_not]
      omega
    rw [nonzero]
    rfl
  · have nonzero : (NumPorts.float options.portsPoolBatch).isZero = false := by
      unfold NumPorts.isZero
      simp only [decide_eq_false_iff_not]
      omega
    rw [nonzero]
    rfl

/-- A pool without lists is populated. -/
theorem exec_populatePool {pools : Pools} (recovered : world.recoveredPools = true)
    (present : world.pools = some pools)
    (empty : (world.poolPorts (getPoolKey trunkIp projectId none subnets)).items = []) :
    exec (populatePool options answers trunkIp projectId subnets securityGroups) world =
      exec (requestVifsAt options answers trunkIp projectId subnets securityGroups
        (givenOrBatch options (some (initialNumPorts options))) >>= fun vifs =>
          vifs.forM (fileVif (getPoolKey trunkIp projectId none subnets)
            (sortedGroups securityGroups))) world := by
  rw [World.poolPorts_of_pools present] at empty
  unfold populatePool
  rw [exec_get_bind, recovered, if_pos rfl, exec_bind_of_ok (exec_getPools present)]
  dsimp only
  rw [if_pos empty]
  rfl

/-- Each port that is filed makes the pool longer by one. -/
theorem getPoolSize_foldl_addVif (poolKey : PoolKey) (group : SgKey) (vifs : List Vif)
    (pools : Pools) :
    getPoolSize (vifs.foldl (addVif poolKey group) pools) poolKey =
      getPoolSize pools poolKey + vifs.length := by
  induction vifs generalizing pools with
  | nil => rfl
  | cons vif rest ih =>
      have filed := getPoolSize_filePort
        { pools with existingVifs := pools.existingVifs.put vif } poolKey group vif.id poolKey
      rw [if_pos rfl] at filed
      have longer : getPoolSize (addVif poolKey group pools vif) poolKey =
          getPoolSize pools poolKey + 1 := filed
      rw [List.foldl_cons, ih, longer, List.length_cons]
      omega

theorem poolSize_filed {poolKey : PoolKey} {group : SgKey} {vifs : List Vif} {pools : Pools}
    (present : world.pools = some pools) :
    (world.withPools (vifs.foldl (addVif poolKey group) pools)).poolSize poolKey =
      world.poolSize poolKey + vifs.length := by
  have before : world.poolSize poolKey = getPoolSize pools poolKey := by
    rw [World.poolSize, present]
    rfl
  rw [before]
  exact getPoolSize_foldl_addVif poolKey group vifs pools

/-- With everything at hand, as many ports come as Neutron creates. -/
theorem exec_requestVifsAt_of_supplied (supplied : Supplied options answers trunkIp subnets world)
    (projectId : String) (securityGroups : List String) (positive : 1 ≤ options.portsPoolMin)
    (vlanIds : options.portsPoolMin ≤ answers.freeVlanIds.length) :
    ∃ vifs after,
      exec (requestVifsAt options answers trunkIp projectId subnets securityGroups
          (.int options.portsPoolMin)) world = (.ok vifs, after) ∧
        after.pools = world.pools ∧ options.portsPoolMin ≤ vifs.length := by
  rcases supplied.network with ⟨network, only⟩
  have kept := requestVifsAt_keepsPools options answers trunkIp projectId subnets securityGroups
    (.int options.portsPoolMin) world
  have taken : (answers.freeVlanIds.take options.portsPoolMin.toNat).length =
      options.portsPoolMin.toNat := by
    rw [List.length_take]
    omega
  have some_ : answers.freeVlanIds.take options.portsPoolMin.toNat ≠ [] := by
    intro nothing
    rw [nothing] at taken
    simp at taken
    omega
  have ran : (exec (requestVifsAt options answers trunkIp projectId subnets securityGroups
      (.int options.portsPoolMin)) world).1 =
        .ok (((answers.newPortIds.take options.portsPoolMin.toNat).zip
          (answers.freeVlanIds.take options.portsPoolMin.toNat)).map fun attached =>
            { id := attached.1, network := ⟨network⟩, vlanId := some attached.2 }) := by
    unfold requestVifsAt getNetworkId createPorts attachSubports
    simp only [supplied.trunk, only, supplied.creates, supplied.attaches, some_, if_false,
      Bool.false_eq_true, taken, callNeutron]
    rfl
  refine ⟨_, _, Prod.ext ran rfl, kept, ?_⟩
  rw [List.length_map, List.length_zip, taken, List.length_take]
  have ports := supplied.ports
  omega

/-- Ports only come with everything at hand. -/
theorem requestVifsAt_ok {count : Int} {vifs : List Vif} {after : World}
    (ran : exec (requestVifsAt options answers trunkIp projectId subnets securityGroups
      (.int count)) world = (.ok vifs, after)) (some_ : vifs ≠ []) :
    answers.fails (.getTrunk trunkIp) = false ∧
      (∃ network, (subnets.values.map Network.id).dedup = [network]) ∧
      answers.fails .createPorts = false ∧ answers.fails .addTrunkSubports = false ∧
      vifs.length ≤ answers.newPortIds.length := by
  unfold requestVifsAt at ran
  cases trunk : answers.fails (.getTrunk trunkIp) with
  | true =>
      rw [trunk] at ran
      cases ran
  | false =>
      rw [trunk] at ran
      simp only [Bool.false_eq_true, if_false] at ran
      rcases exec_bind_eq_ok ran with ⟨network, located, found, rest⟩
      have only : (subnets.values.map Network.id).dedup = [network] := by
        unfold getNetworkId at found
        split at found
        · rename_i same
          cases found
          exact same
        · cases found
      split at rest
      · cases rest
        exact absurd rfl some_
      · rcases exec_bind_eq_ok rest with ⟨ports, created, creating, attaching⟩
        have listed := createPorts_ok creating
        have creates : answers.fails .createPorts = false := by
          cases refused : answers.fails .createPorts with
          | false => rfl
          | true =>
              unfold createPorts callNeutron at creating
              rw [refused] at creating
              cases creating
        unfold attachSubports at attaching
        cases attaches : answers.fails .addTrunkSubports with
        | true =>
            rw [attaches] at attaching
            rcases exec_bind_eq_ok attaching with ⟨_, _, _, ended⟩
            cases ended
            exact absurd rfl some_
        | false =>
            rw [attaches] at attaching
            cases attaching
            refine ⟨rfl, ⟨network, only⟩, creates, rfl, ?_⟩
            rw [List.length_map, List.length_zip, listed, List.length_take]
            omega

/-- A population makes a pool without ports as large as the minimum exactly where the pool has no
lists, half of a batch is less than the minimum, and everything is at hand. -/
theorem populate_pool_fills_iff (minimum : 1 ≤ options.portsPoolMin)
    (unavailable : world.poolSize (getPoolKey trunkIp projectId none subnets) = 0)
    (vlanIds : options.portsPoolMin ≤ answers.freeVlanIds.length) :
    FillsPool options answers trunkIp projectId subnets securityGroups world ↔
      Supplied options answers trunkIp subnets world ∧
        (world.poolPorts (getPoolKey trunkIp projectId none subnets)).items = [] ∧
        options.portsPoolBatch < 2 * options.portsPoolMin := by
  constructor
  · rintro ⟨⟨count, asked⟩, after, ran, filled⟩
    have empty : (world.poolPorts (getPoolKey trunkIp projectId none subnets)).items = [] := by
      by_contra lists
      rw [asked_of_lists lists] at asked
      cases asked
    rw [askedPorts, if_pos empty, Option.some.injEq, givenOrBatch_initialNumPorts minimum] at asked
    have half : options.portsPoolBatch < 2 * options.portsPoolMin := by
      by_contra float
      rw [if_neg float] at asked
      cases asked
    refine ⟨?_, empty, half⟩
    cases recovered : world.recoveredPools with
    | false =>
        unfold populatePool at ran
        rw [exec_get_bind, recovered] at ran
        cases ran
    | true =>
        cases present : world.pools with
        | none =>
            unfold populatePool at ran
            rw [exec_get_bind, recovered, if_pos rfl, exec_getPools_bind_of_none present] at ran
            cases ran
        | some pools =>
            rw [exec_populatePool recovered present empty, givenOrBatch_initialNumPorts minimum,
              if_pos half] at ran
            rcases exec_bind_eq_ok ran with ⟨vifs, middle, requested, filing⟩
            have kept := requestVifsAt_keepsPools options answers trunkIp projectId subnets
              securityGroups (.int options.portsPoolMin) world
            rw [requested] at kept
            have presentThen : middle.pools = some pools := kept.trans present
            rw [exec_fileVifs _ _ vifs presentThen] at filing
            cases filing
            have before : middle.poolSize (getPoolKey trunkIp projectId none subnets) = 0 := by
              rw [← unavailable, World.poolSize, World.poolSize, presentThen, present]
            rw [poolSize_filed presentThen, before, Nat.zero_add] at filled
            have some_ : vifs ≠ [] := by
              rintro rfl
              simp at filled
              omega
            rcases requestVifsAt_ok requested some_ with
              ⟨trunk, network, creates, attaches, atMost⟩
            refine ⟨recovered, by rw [present]; rfl, trunk, network, creates, ?_, attaches⟩
            omega
  · rintro ⟨supplied, empty, half⟩
    have asked : givenOrBatch options (some (initialNumPorts options)) =
        .int options.portsPoolMin := by
      rw [givenOrBatch_initialNumPorts minimum, if_pos half]
    constructor
    · refine ⟨options.portsPoolMin, ?_⟩
      rw [askedPorts, if_pos empty, asked]
    · rcases Option.isSome_iff_exists.mp supplied.pools with ⟨pools, present⟩
      rcases exec_requestVifsAt_of_supplied supplied projectId securityGroups minimum vlanIds with
        ⟨vifs, middle, requested, kept, enough⟩
      have presentThen : middle.pools = some pools := kept.trans present
      refine ⟨middle.withPools (vifs.foldl (addVif (getPoolKey trunkIp projectId none subnets)
        (sortedGroups securityGroups)) pools), ?_, ?_⟩
      · rw [exec_populatePool supplied.recovered present empty, asked, exec_bind_of_ok requested]
        exact exec_fileVifs _ _ vifs presentThen
      · rw [poolSize_filed presentThen]
        omega

end

/-! ## The defaults -/

/-- The pools of a node that has just been recovered, without ports. -/
def emptyPools : World :=
  { pools := some {}, recoveredPools := true }

/-- Neutron finds the trunk, and creates and attaches ports. -/
def fiveMore : Answers :=
  { newPortIds := ["1", "2", "3", "4", "5", "6", "7", "8", "9", "10"]
    freeVlanIds := [1, 2, 3, 4, 5, 6, 7, 8, 9, 10] }

/-- With a batch of nine, the pool is filled. -/
theorem emptyPools_filled :
    FillsPool { portsPoolBatch := 9 } fiveMore "trunk" "project" oneSubnet ["group"]
      emptyPools := by
  apply (populate_pool_fills_iff (by decide) (by decide +kernel) (by decide)).mpr
  refine ⟨⟨rfl, rfl, rfl, ⟨"network", by decide +kernel⟩, rfl, by decide, rfl⟩, by decide +kernel,
    by decide⟩

/-- With the defaults, half of a batch is as much as the minimum, and the float is passed on. -/
theorem populate_pool_defaults :
    ¬FillsPool {} fiveMore "trunk" "project" oneSubnet ["group"] emptyPools := by
  rintro ⟨⟨count, asked⟩, _⟩
  have float : askedPorts {} emptyPools (getPoolKey "trunk" "project" none oneSubnet) =
      some (.float 10) := by
    decide +kernel
  rw [float] at asked
  cases asked

end KuryrKubernetes.Pool.NestedVifPool

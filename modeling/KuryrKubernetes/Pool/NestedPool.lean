import KuryrKubernetes.Pool.Exclusive

/-!
# Pools of subports

What `NestedVIFPool` does besides the methods it shares with the other driver: it frees the
pools of trunks, deletes the pools of a network, and populates a pool on demand.  A run mixes
these with the other methods.
-/

namespace KuryrKubernetes.Pool

open KuryrKubernetes.Data
open KuryrKubernetes.Effect
open KuryrKubernetes.Transition

namespace NestedVifPool

/-! ## Freeing pools -/

/-- `ValueError`. -/
def valueError : PyException :=
  .other "ValueError"

/-- `self._available_ports_pools[pool_key][group].remove(port)`. -/
def unfilePort (poolKey : PoolKey) (group : SgKey) (port : String) : PoolM Unit := do
  let pools ← getPools
  match pools.availablePortsPools.get? poolKey with
  | none => throw .keyError
  | some poolPorts =>
      match poolPorts.get? group with
      | none => throw .keyError
      | some ports =>
          if port ∈ ports then
            setPools (pools.setPool poolKey (poolPorts.set group (ports.erase port)))
          else
            throw valueError

/-- The port of a subport is deleted and taken out of the pool with this key. -/
def freePort (answers : Answers) (poolKey : PoolKey) (group : SgKey) (port : String) :
    PoolM Unit :=
  tryCatch
    (do
      callNeutron answers (.removeSubport port)
      deletePort answers port
      deleteExistingVif port
      unfilePort poolKey group port)
    fun ex =>
      if ex = .keyError ∨ ex.isSdkException ∨ ex = valueError then pure () else throw ex

/-- The key of the pool that `_precreated_ports` looks for a port in. -/
def foundKey (answers : Answers) (hostAddr : String) (record : NeutronPort) : PoolKey :=
  getPoolKey hostAddr record.projectId (some (answers.networkOfSubnet record.subnetId)) ∅

/-- One subport of `_precreated_ports` with action `free`. -/
def freeSubport (answers : Answers) (available : Dict String NeutronPort) (hostAddr : String)
    (subport : String × Nat) : PoolM Unit :=
  match available.get? subport.1 with
  | none => pure ()
  | some record =>
      freePort answers (foundKey answers hostAddr record)
        (sortedGroups record.securityGroupIds) subport.1

/-- The parent ports that are not passed over: all of them without `trunk_ips`. -/
def chosenParents (answers : Answers) (trunkIps : List String) : List ParentPort :=
  answers.trunks.parentPorts.filter fun parent => trunkIps = [] ∨ parent.ip ∈ trunkIps

/-- The ports of no trunk, which `_precreated_ports` deletes first. -/
def detachedPorts (answers : Answers) (available : Dict String NeutronPort) : List String :=
  available.keys.filter (· ∉ answers.trunks.subPortIds)

/-- `free_pool`: `_precreated_ports` with action `free`. -/
def freePool (options : Options) (answers : Answers) (trunkIps : List String) : PoolM Unit := do
  let world ← get
  let available := availableSubports options answers world.neutron
  (detachedPorts answers available).forM (tryDeletePort answers)
  (chosenParents answers trunkIps).forM fun parent =>
    parent.subPorts.forM (freeSubport answers available parent.ip)

/-! ## The pools of a network -/

/-- One port of a pool in `delete_network_pools`. -/
def dropPort (answers : Answers) (port : String) : PoolM Unit := do
  tryCatch (deleteExistingVif port) fun ex => if ex = .keyError then pure () else throw ex
  deletePort answers port

/-- The turn of a pool in `delete_network_pools`; `detaches` tells whether the subports can be
taken from their trunk. -/
def dropPool (answers : Answers) (netId : String) (detaches : List String → Bool)
    (pool : PoolKey × PoolPorts) : PoolM Unit :=
  if pool.1.netId = some netId then do
    let _ ← getTrunkId answers pool.1
    if detaches (poolMembers pool.2) then do
      (poolMembers pool.2).forM (dropPort answers)
      let pools ← getPools
      setPools (pools.setPool pool.1 ∅)
  else
    pure ()

/-- `delete_network_pools`. -/
def deleteNetworkPools (options : Options) (answers : Answers) (netId : String)
    (detaches : List String → Bool) : PoolM Unit := do
  let world ← get
  if world.recoveredPools then do
    triggerReturnToPool .nested options answers
    let pools ← getPools
    pools.availablePortsPools.items.forM (dropPool answers netId detaches)
  else
    throw .resourceNotReady

/-! ## Populating on demand -/

/-- A number of ports to create: an integer, or a float, given by its double. -/
inductive NumPorts where
  | int (count : Int)
  | float (double : Int)
  deriving DecidableEq

/-- `not num_ports`. -/
def NumPorts.isZero : NumPorts → Bool
  | .int count => count = 0
  | .float double => double = 0

/-- `max(ports_pool_batch/2, ports_pool_min)`, where the division gives a float. -/
def initialNumPorts (options : Options) : NumPorts :=
  if options.portsPoolBatch < 2 * options.portsPoolMin then
    .int options.portsPoolMin
  else
    .float options.portsPoolBatch

/-- `request_vifs` with a trunk address; a float is no argument for `range`. -/
def requestVifsAt (options : Options) (answers : Answers) (trunkIp projectId : String)
    (subnets : Dict String Network) (securityGroups : List String) (numPorts : NumPorts) :
    PoolM (List Vif) := do
  if answers.fails (.getTrunk trunkIp) then
    throw .k8sNodeTrunkPortFailure
  let network ← getNetworkId subnets
  match numPorts with
  | .float _ => throw .typeError
  | .int count =>
      let vlanIds := answers.freeVlanIds.take count.toNat
      if vlanIds = [] then
        return []
      else
        let record : NeutronPort :=
          { projectId
            networkId := network
            subnetId := subnets.keys.headD ""
            securityGroupIds :=
              if securityGroups = [] then answers.defaultGroups else securityGroups
            name := if options.portDebug then kuryrPortName else ""
            bindingVifType := answers.vifType }
        let ports ← createPorts options answers record vlanIds.length
        attachSubports answers network ports vlanIds

/-- `self._existing_vifs[vif.id] = vif`, and the port is filed. -/
def fileVif (poolKey : PoolKey) (group : SgKey) (vif : Vif) : PoolM Unit := do
  let pools ← getPools
  setPools (addVif poolKey group pools vif)

/-- The number of ports that `force_populate_pool` asks for: without one, those of a batch. -/
def givenOrBatch (options : Options) : Option NumPorts → NumPorts
  | none => .int options.portsPoolBatch
  | some given => if given.isZero then .int options.portsPoolBatch else given

/-- `force_populate_pool`. -/
def forcePopulatePool (options : Options) (answers : Answers) (trunkIp projectId : String)
    (subnets : Dict String Network) (securityGroups : List String)
    (numPorts : Option NumPorts) : PoolM Unit := do
  let vifs ← requestVifsAt options answers trunkIp projectId subnets securityGroups
    (givenOrBatch options numPorts)
  vifs.forM (fileVif (getPoolKey trunkIp projectId none subnets) (sortedGroups securityGroups))

/-- `populate_pool`, which leaves a pool that is there as it is. -/
def populatePool (options : Options) (answers : Answers) (trunkIp projectId : String)
    (subnets : Dict String Network) (securityGroups : List String) : PoolM Unit := do
  let world ← get
  if world.recoveredPools then do
    let pools ← getPools
    let poolPorts := pools.availablePortsPools.getD (getPoolKey trunkIp projectId none subnets) ∅
    if poolPorts.items = [] then
      forcePopulatePool options answers trunkIp projectId subnets securityGroups
        (some (initialNumPorts options))
  else
    throw .resourceNotReady

/-! ## Runs -/

/-- What may happen in a run of the nested driver: the methods of all drivers and its own.
Somebody else may delete a port too. -/
inductive NestedAction where
  | shared (action : Action)
  | freePool (answers : Answers) (trunkIps : List String)
  | deleteNetworkPools (answers : Answers) (netId : String) (detaches : List String → Bool)
  | forcePopulatePool (answers : Answers) (trunkIp projectId : String)
      (subnets : Dict String Network) (securityGroups : List String)
      (numPorts : Option NumPorts)
  | populatePool (answers : Answers) (trunkIp projectId : String)
      (subnets : Dict String Network) (securityGroups : List String)
  | losePort (port : String)

section

variable (options : Options)

/-- One action of the nested driver. -/
def nestedStep : Step State NestedAction
  | state, .shared action => step .nested options state action
  | state, .freePool answers trunkIps =>
      some { state with world := (exec (freePool options answers trunkIps) state.world).2 }
  | state, .deleteNetworkPools answers netId detaches =>
      some { state with
        world := (exec (deleteNetworkPools options answers netId detaches) state.world).2 }
  | state, .forcePopulatePool answers trunkIp projectId subnets securityGroups numPorts =>
      if state.givesOut answers.newPortIds then
        some { state with
          world := (exec (forcePopulatePool options answers trunkIp projectId subnets
            securityGroups numPorts) state.world).2 }
      else
        none
  | state, .populatePool answers trunkIp projectId subnets securityGroups =>
      if state.givesOut answers.newPortIds then
        some { state with
          world := (exec (populatePool options answers trunkIp projectId subnets
            securityGroups) state.world).2 }
      else
        none
  | state, .losePort port =>
      some { state with
        world := { state.world with neutron := state.world.neutron.erase port } }

end

end NestedVifPool

end KuryrKubernetes.Pool

import KuryrKubernetes.Pool.Core

/-!
# Operations of the pool drivers

`NeutronVIFPool` and `NestedVIFPool` share most of their code; where they
differ the definitions branch on the driver.  Port lists are used as stacks:
ports are appended and popped at the end.
-/

namespace KuryrKubernetes.Pool

open KuryrKubernetes.Data
open KuryrKubernetes.Effect

/-! ## Access to the dictionaries -/

/-- The dictionaries of the driver, which `sync_pools` creates. -/
def getPools : PoolM Pools := do
  match (← get).pools with
  | some pools => pure pools
  | none => throw .attributeError

/-- The world with other dictionaries. -/
def World.withPools (world : World) (pools : Pools) : World :=
  { world with pools := some pools }

@[simp]
theorem World.pools_withPools (world : World) (pools : Pools) :
    (world.withPools pools).pools = some pools :=
  rfl

/-- Replace the dictionaries of the driver. -/
def setPools (pools : Pools) : PoolM Unit :=
  modify fun world => world.withPools pools

/-- Replace the lists of one pool. -/
def Pools.setPool (pools : Pools) (poolKey : PoolKey) (poolPorts : PoolPorts) : Pools :=
  { pools with availablePortsPools := pools.availablePortsPools.set poolKey poolPorts }

/-- `del _available_ports_pools[pool_key][group]`. -/
def Pools.eraseGroup (pools : Pools) (poolKey : PoolKey) (group : SgKey) : Pools :=
  pools.setPool poolKey ((pools.availablePortsPools.getD poolKey ∅).erase group)

/-- Run a call that Neutron may refuse. -/
def callNeutron (answers : Answers) (call : NeutronCall) : PoolM Unit := do
  if answers.fails call then
    throw .sdkException

/-- `os_net.update_port(port, security_groups=groups)`; `None` for the groups
takes all groups from the port, as the empty list does. -/
def updatePortGroups (answers : Answers) (port : String) (groups : List String) :
    PoolM Unit := do
  callNeutron answers (.updateGroups port)
  let world ← get
  match world.neutron.get? port with
  | none => throw .neutronNotFound
  | some record =>
      set { world with
        neutron := world.neutron.set port { record with securityGroupIds := groups } }

/-- `os_net.update_port(port, name=name, device_id=deviceId)`; a driver that
passes no device id leaves it unchanged. -/
def updatePortName (answers : Answers) (port name : String) (deviceId : Option String) :
    PoolM Unit := do
  callNeutron answers (.updateName port)
  let world ← get
  match world.neutron.get? port with
  | none => throw .neutronNotFound
  | some record =>
      set { world with
        neutron := world.neutron.set port
          { record with name := name, deviceId := deviceId.getD record.deviceId } }

/-- `os_net.delete_port(port)`, which ignores a port that does not exist. -/
def deletePort (answers : Answers) (port : String) : PoolM Unit := do
  callNeutron answers (.deletePort port)
  modify fun world => { world with neutron := world.neutron.erase port }

/-! ## Keys and sizes -/

/-- `_get_host_addr`. -/
def getHostAddr (driver : Driver) (pod : Pod) : Option String :=
  match driver with
  | .neutron => pod.nodeName
  | .nested => pod.hostIp

/-- `_get_pool_key`. -/
def getPoolKey (host projectId : String) (netId : Option String)
    (subnets : Dict String Network) : PoolKey :=
  ⟨host, projectId, netId <|> (subnets.values.head?.map Network.id)⟩

/-- All ports of a pool. -/
def poolMembers (poolPorts : PoolPorts) : List String :=
  poolPorts.values.flatten

/-- `_get_pool_size`. -/
def getPoolSize (pools : Pools) (poolKey : PoolKey) : Nat :=
  (poolMembers (pools.availablePortsPools.getD poolKey ∅)).length

/-- Append a port to one list of one pool, creating both when missing. -/
def filePort (pools : Pools) (poolKey : PoolKey) (group : SgKey) (port : String) : Pools :=
  { pools with
    availablePortsPools := pools.availablePortsPools.alter poolKey ∅ fun poolPorts =>
      poolPorts.alter group [] fun ports => ports ++ [port] }

/-! ## Handing out ports -/

/-- `pool_ports[group].pop()`: the last port of the list and the lists left. -/
def popPort (poolPorts : PoolPorts) (group : SgKey) : Option (String × PoolPorts) := do
  let ports ← poolPorts.get? group
  let port ← ports.getLast?
  return (port, poolPorts.set group ports.dropLast)

/-- The search for the list that was updated the longest ago; `-1` stands for
no candidate yet. -/
def oldestGroup (poolPorts : PoolPorts) : List (SgKey × Int) → Int → SgKey → Int × SgKey
  | [], minDate, minGroup => (minDate, minGroup)
  | (group, date) :: rest, minDate, minGroup =>
      if poolPorts.getD group [] ≠ [] ∧ (minDate = -1 ∨ date < minDate) then
        oldestGroup poolPorts rest date group
      else
        oldestGroup poolPorts rest minDate minGroup

/-- The list a port is reused from when the requested one is empty: the first
non-empty list when no update is recorded, else the one updated the longest
ago. -/
def reusedGroup (poolPorts : PoolPorts) (poolUpdates : Dict SgKey Int) : Option SgKey :=
  if poolUpdates.items = [] then
    (poolPorts.items.find? fun item => item.2 ≠ []).map Prod.fst
  else
    let found := oldestGroup poolPorts poolUpdates.items (-1) none
    if found.1 = -1 then none else some found.2

/-- The port to hand out, the lists left, and whether its groups have to be
updated because it was reused from another list. -/
def selectPort (poolPorts : PoolPorts) (poolUpdates : Dict SgKey Int) (group : SgKey) :
    Option (String × PoolPorts × Bool) :=
  match popPort poolPorts group with
  | some (port, left) => some (port, left, false)
  | none => do
      let other ← reusedGroup poolPorts poolUpdates
      let (port, left) ← popPort poolPorts other
      return (port, left, true)

/-- Take a port for `group` out of a pool.  The result tells whether the port
was reused from another list. -/
def takePort (poolKey : PoolKey) (group : SgKey) : PoolM (String × Bool) := do
  let some pools := (← get).pools
    | throw .resourceNotReady
  let some poolPorts := pools.availablePortsPools.get? poolKey
    | throw .resourceNotReady
  match selectPort poolPorts (pools.lastUpdate.getD poolKey ∅) group with
  | none => throw .resourceNotReady
  | some (port, left, reused) =>
      setPools (pools.setPool poolKey left)
      return (port, reused)

/-- A port reused from another list gets the groups of the request. -/
def refreshGroups (answers : Answers) (securityGroups : List String) (port : String)
    (reused : Bool) : PoolM Unit := do
  if reused then
    updatePortGroups answers port securityGroups

/-- With `port_debug` a port carries the name of its pod; only the bare-metal
driver sets the device id. -/
def refreshName (driver : Driver) (options : Options) (answers : Answers) (pod : Pod)
    (port : String) : PoolM Unit := do
  if options.portDebug then
    match driver with
    | .neutron => updatePortName answers port pod.uniqueName (some pod.uid)
    | .nested => updatePortName answers port pod.uniqueName none

/-- `eventlet.spawn(self._populate_pool, ...)`. -/
def spawnPopulation (population : Population) : PoolM Unit :=
  modify fun world => { world with spawned := world.spawned ++ [population] }

/-- Spawn a population when the pool holds fewer ports than it should. -/
def spawnWhenLow (options : Options) (population : Population) : PoolM Unit := do
  let pools ← getPools
  if (getPoolSize pools population.poolKey : Int) < options.portsPoolMin then
    spawnPopulation population

/-- `self._existing_vifs[port]`. -/
def existingVif (port : String) : PoolM Vif := do
  let pools ← getPools
  match pools.existingVifs.dict.get? port with
  | some vif => return vif
  | none => throw .keyError

/-- What `_get_port_from_pool` does with the port it has taken. -/
def preparePort (driver : Driver) (options : Options) (answers : Answers)
    (population : Population) (port : String) (reused : Bool) : PoolM Vif := do
  refreshGroups answers population.securityGroups port reused
  refreshName driver options answers population.pod port
  spawnWhenLow options population
  existingVif port

/-- `_get_port_from_pool`; `securityGroups` is already sorted. -/
def getPortFromPool (driver : Driver) (options : Options) (answers : Answers)
    (poolKey : PoolKey) (pod : Pod) (subnets : Dict String Network)
    (securityGroups : List String) : PoolM Vif := do
  let (port, reused) ← takePort poolKey (some securityGroups)
  preparePort driver options answers ⟨poolKey, pod, subnets, securityGroups⟩ port reused

/-- `request_vif` after an exception: an empty pool is populated. -/
def requestFailed (population : Population) (ex : PyException) : PoolM (Option Vif) := do
  if ex = .resourceNotReady then
    spawnPopulation population
    throw ex
  else
    throw ex

/-- `request_vif`: no VIF for a pod without host. -/
def requestVif (driver : Driver) (options : Options) (answers : Answers) (pod : Pod)
    (projectId : String) (subnets : Dict String Network) (securityGroups : List String) :
    PoolM (Option Vif) :=
  match getHostAddr driver pod with
  | none => pure none
  | some hostAddr =>
      let poolKey := getPoolKey hostAddr projectId none subnets
      let groups := securityGroups.insertionSort (· ≤ ·)
      tryCatch
        (do
          let vif ← getPortFromPool driver options answers poolKey pod subnets groups
          pure (some vif))
        (requestFailed ⟨poolKey, pod, subnets, groups⟩)

/-! ## Populating pools -/

/-- `utils.get_network_id`: all subnets belong to one network. -/
def getNetworkId (subnets : Dict String Network) : PoolM String :=
  match (subnets.values.map Network.id).dedup with
  | [network] => pure network
  | _ => throw (.other "IntegrityError")

/-- `os_net.create_ports` for a number of equal ports, with the tags set by
`tag_neutron_resources` afterwards. -/
def createPorts (options : Options) (answers : Answers) (record : NeutronPort)
    (count : Nat) : PoolM (List String) := do
  callNeutron answers .createPorts
  let ports := answers.newPortIds.take count
  modify fun world => { world with
    neutron := ports.foldl (fun neutron port =>
      neutron.set port { record with
        tags := if answers.fails (.tagPort port) then [] else options.resourceTags })
      world.neutron }
  return ports

/-- The port record `_get_port_request` describes.  Without groups in the
request Neutron applies its default ones. -/
def portRequest (driver : Driver) (options : Options) (answers : Answers) (pod : Pod)
    (projectId networkId : String) (subnets : Dict String Network)
    (securityGroups : List String) : NeutronPort where
  projectId := projectId
  networkId := networkId
  subnetId := subnets.keys.headD ""
  securityGroupIds :=
    if securityGroups = [] then answers.defaultGroups else securityGroups
  name := if options.portDebug then kuryrPortName else ""
  deviceId :=
    match driver with
    | .neutron => if options.portDebug then "" else pod.uid
    | .nested => ""
  bindingHostId :=
    match driver with
    | .neutron => pod.nodeName
    | .nested => none
  bindingVifType := answers.vifType

/-- `get_host_id`. -/
def getHostId (pod : Pod) : PoolM String :=
  match pod.nodeName with
  | some node => pure node
  | none => throw .keyError

/-- `NeutronPodVIFDriver.request_vifs`; the binding information is read from the
first port, which has to exist. -/
def requestVifsNeutron (options : Options) (answers : Answers) (pod : Pod)
    (projectId : String) (subnets : Dict String Network) (securityGroups : List String)
    (numPorts : Nat) : PoolM (List Vif) := do
  let network ← getNetworkId subnets
  let _ ← getHostId pod
  let record := portRequest .neutron options answers pod projectId network subnets
    securityGroups
  let ports ← createPorts options answers record numPorts
  match ports with
  | [] => throw .indexError
  | _ :: _ => return ports.map fun port => { id := port, network := ⟨network⟩ }

/-- `_get_parent_port` and `_get_trunk_id` of the nested VIF driver. -/
def getParentTrunk (answers : Answers) (pod : Pod) : PoolM Unit :=
  match pod.hostIp with
  | none => throw .keyError
  | some hostIp =>
      if answers.fails (.getTrunk hostIp) then throw .k8sNodeTrunkPortFailure else pure ()

/-- Attach new ports to the trunk, or delete them again when that fails. -/
def attachSubports (answers : Answers) (network : String) (ports : List String)
    (vlanIds : List Nat) : PoolM (List Vif) := do
  if answers.fails .addTrunkSubports then
    ports.forM (deletePort answers)
    return []
  else
    return (ports.zip vlanIds).map fun (port, vlanId) =>
      { id := port, network := ⟨network⟩, vlanId := some vlanId }

/-- `NestedVlanPodVIFDriver.request_vifs`: at most as many subports as VLAN ids
are free. -/
def requestVifsNested (options : Options) (answers : Answers) (pod : Pod)
    (projectId : String) (subnets : Dict String Network) (securityGroups : List String)
    (numPorts : Nat) : PoolM (List Vif) := do
  getParentTrunk answers pod
  let network ← getNetworkId subnets
  let vlanIds := answers.freeVlanIds.take numPorts
  if vlanIds = [] then
    return []
  else
    let record := portRequest .nested options answers pod projectId network subnets
      securityGroups
    let ports ← createPorts options answers record vlanIds.length
    attachSubports answers network ports vlanIds

/-- `request_vifs` of the VIF driver that belongs to the pool driver. -/
def requestVifs (driver : Driver) (options : Options) (answers : Answers) (pod : Pod)
    (projectId : String) (subnets : Dict String Network) (securityGroups : List String)
    (numPorts : Nat) : PoolM (List Vif) :=
  match driver with
  | .neutron =>
      requestVifsNeutron options answers pod projectId subnets securityGroups numPorts
  | .nested =>
      requestVifsNested options answers pod projectId subnets securityGroups numPorts

/-- Record a new VIF and file its port. -/
def addVif (poolKey : PoolKey) (group : SgKey) (pools : Pools) (vif : Vif) : Pools :=
  filePort { pools with existingVifs := pools.existingVifs.put vif } poolKey group vif.id

/-- `_last_update[pool_key] = {security_groups: date}`. -/
def recordUpdate (poolKey : PoolKey) (group : SgKey) (date : Int) : PoolM Unit := do
  let pools ← getPools
  setPools { pools with
    lastUpdate := pools.lastUpdate.set poolKey ((∅ : Dict SgKey Int).set group date) }

/-- The number of ports a population asks for. -/
def populationSize (options : Options) (poolSize : Nat) : Nat :=
  (max options.portsPoolBatch (options.portsPoolMin - poolSize)).toNat

/-- File new VIFs; when there are none the previous update date is restored. -/
def fileVifs (poolKey : PoolKey) (group : SgKey) (lastUpdate : Int) (vifs : List Vif) :
    PoolM Unit := do
  let pools ← getPools
  setPools (vifs.foldl (addVif poolKey group) pools)
  if vifs = [] then
    recordUpdate poolKey group lastUpdate

/-- The part of `_populate_pool` that creates ports when the pool is too small. -/
def fillPool (driver : Driver) (options : Options) (answers : Answers)
    (poolKey : PoolKey) (pod : Pod) (subnets : Dict String Network)
    (securityGroups : List String) (lastUpdate : Int) : PoolM Unit := do
  let pools ← getPools
  let poolSize := getPoolSize pools poolKey
  if (poolSize : Int) < options.portsPoolMin then
    let vifs ← requestVifs driver options answers pod poolKey.projectId subnets
      securityGroups (populationSize options poolSize)
    fileVifs poolKey (some securityGroups) lastUpdate vifs

/-- The part of `_populate_pool` that runs once the pools are recovered. -/
def populateRecovered (driver : Driver) (options : Options) (answers : Answers) (now : Int)
    (poolKey : PoolKey) (pod : Pod) (subnets : Dict String Network)
    (securityGroups : List String) : PoolM Unit := do
  let pools ← getPools
  let poolUpdates := pools.lastUpdate.getD poolKey ∅
  let lastUpdate := poolUpdates.getD (some securityGroups) 0
  if poolUpdates.items ≠ [] ∧ now - options.portsPoolUpdateFrequency < lastUpdate then
    return
  else
    recordUpdate poolKey (some securityGroups) now
    fillPool driver options answers poolKey pod subnets securityGroups lastUpdate

/-- `_populate_pool` at time `now`; `securityGroups` is already sorted. -/
def populatePool (driver : Driver) (options : Options) (answers : Answers) (now : Int)
    (poolKey : PoolKey) (pod : Pod) (subnets : Dict String Network)
    (securityGroups : List String) : PoolM Unit := do
  let world ← get
  if world.recoveredPools then
    populateRecovered driver options answers now poolKey pod subnets securityGroups
  else
    throw .resourceNotReady

/-! ## Taking ports back -/

/-- `BaseVIFPool.release_vif` for a known host. -/
def releaseVifAt (hostAddr : String) (vif : Vif) (projectId : String) : PoolM Unit := do
  let world ← get
  match world.pools with
  | none => throw .resourceNotReady
  | some pools =>
      let poolKey := getPoolKey hostAddr projectId (some vif.network.id) ∅
      let existing :=
        if (pools.existingVifs.dict.get? vif.id).isNone then
          pools.existingVifs.put vif
        else
          pools.existingVifs
      setPools { pools with
        existingVifs := existing
        recyclablePorts := pools.recyclablePorts.set vif.id poolKey }

/-- `release_vif`.  The nested driver asks Neutron for the address of the
parent port when the pod has no host address, and ignores unknown ports. -/
def releaseVif (driver : Driver) (answers : Answers) (pod : Pod) (vif : Vif)
    (projectId : String) : PoolM Unit := do
  match getHostAddr driver pod, driver with
  | some hostAddr, _ => releaseVifAt hostAddr vif projectId
  | none, .neutron => throw .keyError
  | none, .nested =>
      match answers.trunks.parentIp vif.id with
      | none => return
      | some hostAddr => releaseVifAt hostAddr vif projectId

/-- The device owners the drivers look for when they recycle ports. -/
def recycledOwners : Driver → List String
  | .neutron => [deviceOwner]
  | .nested => ["trunk:subport", deviceOwner]

/-- A port matches the tags filter of a listing. -/
def hasTags (options : Options) (record : NeutronPort) : Bool :=
  options.resourceTags.all fun tag => record.tags.contains tag

/-- The groups of the recyclable ports as Neutron lists them; nothing is read
with `port_debug`. -/
def currentGroups (driver : Driver) (options : Options) (pools : Pools)
    (neutron : Dict String NeutronPort) (port : String) : SgKey :=
  if options.portDebug then
    none
  else
    match neutron.get? port with
    | some record =>
        if record.deviceOwner ∈ recycledOwners driver ∧ hasTags options record ∧
            port ∈ pools.recyclablePorts then
          sortedGroups record.securityGroupIds
        else
          none
    | none => none

/-- `_get_trunk_id`, which remembers the trunk of every pool. -/
def getTrunkId (answers : Answers) (poolKey : PoolKey) : PoolM String := do
  match (← get).knownTrunkIds.get? poolKey with
  | some trunkId => return trunkId
  | none =>
      if answers.fails (.getTrunk poolKey.host) then
        throw .k8sNodeTrunkPortFailure
      else
        match answers.trunks.parentPorts.find? (·.ip = poolKey.host) with
        | none => throw .noResource
        | some parent =>
            modify fun world =>
              { world with knownTrunkIds := world.knownTrunkIds.set poolKey parent.trunkId }
            return parent.trunkId

/-- Forget the VIF object of a port; a `KeyError` when there is none. -/
def deleteExistingVif (port : String) : PoolM Unit := do
  let pools ← getPools
  match pools.existingVifs.dict.get? port with
  | none => throw .keyError
  | some _ => setPools { pools with existingVifs := pools.existingVifs.erase port }

/-- `del self._recyclable_ports[port]`. -/
def dropRecyclable (port : String) : PoolM Unit := do
  let pools ← getPools
  setPools { pools with recyclablePorts := pools.recyclablePorts.erase port }

/-- The bare-metal driver deletes a port of a full pool.  An unknown port is done
with; other exceptions leave the loop. -/
def deleteRecyclableNeutron (answers : Answers) (port : String) : PoolM Unit := do
  try
    deleteExistingVif port
    deletePort answers port
  catch ex =>
    if ex = .keyError then pure () else throw ex
  dropRecyclable port

/-- The nested driver detaches the subport first, and keeps a port whose removal
failed in Neutron. -/
def deleteRecyclableNested (answers : Answers) (poolKey : PoolKey) (port : String) :
    PoolM Unit := do
  let _ ← getTrunkId answers poolKey
  let done ←
    try
      callNeutron answers (.removeSubport port)
      deleteExistingVif port
      deletePort answers port
      pure true
    catch ex =>
      if ex = .keyError then pure true
      else if ex.isSdkException then pure false
      else throw ex
  if done then
    dropRecyclable port

/-- With `port_debug` a port gets the name of a pooled port before it returns to
its pool. -/
def renameRecyclable (driver : Driver) (options : Options) (answers : Answers)
    (port : String) : PoolM Unit := do
  if options.portDebug then
    match driver with
    | .neutron => updatePortName answers port kuryrPortName (some "")
    | .nested => updatePortName answers port kuryrPortName none

/-- Return a port to its pool. -/
def returnPort (poolKey : PoolKey) (group : SgKey) (port : String) : PoolM Unit := do
  let pools ← getPools
  setPools (filePort pools poolKey group port)
  dropRecyclable port

/-- Rename a port, telling whether Neutron allowed it. -/
def tryRename (driver : Driver) (options : Options) (answers : Answers) (port : String) :
    PoolM Bool := do
  try
    renameRecyclable driver options answers port
    pure true
  catch ex =>
    if ex.isSdkException then pure false else throw ex

/-- The turn of a port whose pool is not full.  A port that could not be renamed
stays recyclable. -/
def renameThenReturn (driver : Driver) (options : Options) (answers : Answers)
    (group : SgKey) (port : String) (poolKey : PoolKey) : PoolM Unit := do
  let renamed ← tryRename driver options answers port
  if renamed then
    returnPort poolKey group port

/-- One turn of the recycling loop, for one recyclable port. -/
def recyclePort (driver : Driver) (options : Options) (answers : Answers)
    (groupOf : String → SgKey) (port : String) (poolKey : PoolKey) : PoolM Unit := do
  let pools ← getPools
  if options.portsPoolMax = 0 ∨ (getPoolSize pools poolKey : Int) < options.portsPoolMax then
    renameThenReturn driver options answers (groupOf port) port poolKey
  else
    match driver with
    | .neutron => deleteRecyclableNeutron answers port
    | .nested => deleteRecyclableNested answers poolKey port

/-- `_trigger_return_to_pool`. -/
def triggerReturnToPool (driver : Driver) (options : Options) (answers : Answers) :
    PoolM Unit := do
  let world ← get
  match world.pools with
  | none => return
  | some pools =>
      let groupOf := currentGroups driver options pools world.neutron
      pools.recyclablePorts.items.forM fun item =>
        recyclePort driver options answers groupOf item.1 item.2

/-! ## Start-up -/

/-- `BaseVIFPool.sync_pools`: start with empty dictionaries. -/
def syncPools : PoolM Unit :=
  setPools {}

/-- The subports of `_get_trunks_info`: active ports that are not in use and
belong to kuryr. -/
def availableSubports (options : Options) (answers : Answers)
    (neutron : Dict String NeutronPort) : Dict String NeutronPort :=
  Dict.ofList (neutron.items.filter fun (port, record) =>
    record.isActive ∧ hasTags options record ∧ port ∉ answers.inUsePorts ∧
      record.deviceOwner ∈ recycledOwners .nested)

/-- The ports `NeutronVIFPool._recover_precreated_ports` looks at: with
`port_debug` those with the name of a pooled port, else those not in use; ports
that are subports are left out. -/
def recoverablePorts (options : Options) (answers : Answers)
    (neutron : Dict String NeutronPort) : List (String × NeutronPort) :=
  neutron.items.filter fun (port, record) =>
    record.deviceOwner = deviceOwner ∧ hasTags options record ∧
      (if options.portDebug then record.name = kuryrPortName
        else port ∉ answers.inUsePorts) ∧
      port ∉ availableSubports options answers neutron

/-- One port of `NeutronVIFPool._recover_precreated_ports`.  A port without
binding information is deleted. -/
def recoverPort (answers : Answers) (port : String) (record : NeutronPort) :
    PoolM Unit := do
  match record.bindingVifType, record.bindingHostId with
  | some _, some host =>
      let network := answers.networkOfSubnet record.subnetId
      let vif : Vif := { id := port, network := ⟨network⟩ }
      let poolKey := getPoolKey host record.projectId (some network) ∅
      let pools ← getPools
      setPools (addVif poolKey (sortedGroups record.securityGroupIds) pools vif)
  | _, _ => deletePort answers port

/-- `NeutronVIFPool._recover_precreated_ports`. -/
def recoverPrecreatedPortsNeutron (options : Options) (answers : Answers) :
    PoolM Unit := do
  let world ← get
  (recoverablePorts options answers world.neutron).forM fun (port, record) =>
    recoverPort answers port record

/-- One subport of `NestedVIFPool._precreated_ports` with action `recover`. -/
def recoverSubport (answers : Answers) (available : Dict String NeutronPort)
    (hostAddr : String) (subport : String × Nat) : PoolM Unit := do
  match available.get? subport.1 with
  | none => return
  | some record =>
      let network := answers.networkOfSubnet record.subnetId
      let vif : Vif :=
        { id := subport.1, network := ⟨network⟩, vlanId := some subport.2 }
      let poolKey := getPoolKey hostAddr record.projectId (some network) ∅
      let pools ← getPools
      setPools (addVif poolKey (sortedGroups record.securityGroupIds) pools vif)

/-- Delete a port, going on when Neutron refuses. -/
def tryDeletePort (answers : Answers) (port : String) : PoolM Unit := do
  try
    deletePort answers port
  catch ex =>
    if !ex.isSdkException then
      throw ex

/-- `NestedVIFPool._recover_precreated_ports`: ports that are attached to no
trunk are deleted, the others return to the pool of their trunk. -/
def recoverPrecreatedPortsNested (options : Options) (answers : Answers) :
    PoolM Unit := do
  let world ← get
  let available := availableSubports options answers world.neutron
  (available.keys.filter (· ∉ answers.trunks.subPortIds)).forM (tryDeletePort answers)
  answers.trunks.parentPorts.forM fun parent =>
    parent.subPorts.forM (recoverSubport answers available parent.ip)

/-- `_recover_precreated_ports`. -/
def recoverPrecreatedPorts (driver : Driver) (options : Options) (answers : Answers) :
    PoolM Unit :=
  match driver with
  | .neutron => recoverPrecreatedPortsNeutron options answers
  | .nested => recoverPrecreatedPortsNested options answers

/-- What `sync_pools` does after it created the dictionaries. -/
def recoverPools (driver : Driver) (options : Options) (answers : Answers) :
    PoolM Unit := do
  recoverPrecreatedPorts driver options answers
  modify fun world => { world with recoveredPools := true }

/-! ## Security groups -/

/-- Take all groups from a port and file it with the ports without groups. -/
def clearPort (answers : Answers) (poolKey : PoolKey) (port : String) : PoolM Unit := do
  updatePortGroups answers port []
  let pools ← getPools
  setPools (filePort pools poolKey (some []) port)

/-- Take one list of one pool apart.  The list is the one the dictionary holds
now; when it is gone its ports are already in use again. -/
def removeGroup (answers : Answers) (poolKey : PoolKey) (group : SgKey) : PoolM Unit := do
  let pools ← getPools
  match (pools.availablePortsPools.getD poolKey ∅).get? group with
  | none => return
  | some ports =>
      setPools (pools.eraseGroup poolKey group)
      ports.forM (clearPort answers poolKey)
      recordUpdate poolKey (some []) 0

/-- The turn of one list in `remove_sg_from_pools`.  Looking for a group in the
key `None` raises. -/
def removeSgFromGroup (answers : Answers) (sgId : String) (poolKey : PoolKey)
    (group : SgKey) : PoolM Unit := do
  match group with
  | none => throw .typeError
  | some groups =>
      if sgId ∈ groups then
        removeGroup answers poolKey group

/-- The turn of one pool in `remove_sg_from_pools`. -/
def removeSgFromPool (answers : Answers) (sgId netId : String)
    (pool : PoolKey × PoolPorts) : PoolM Unit :=
  if pool.1.netId = some netId then
    pool.2.keys.forM (removeSgFromGroup answers sgId pool.1)
  else
    pure ()

/-- `remove_sg_from_pools`. -/
def removeSgFromPools (answers : Answers) (sgId netId : String) : PoolM Unit := do
  let pools ← getPools
  pools.availablePortsPools.items.forM (removeSgFromPool answers sgId netId)

/-- `NeutronPodVIFDriver.update_vif_sgs`, for the pod object the caller holds. -/
def updateVifSgs (answers : Answers) (pod : Pod) (securityGroups : List String) :
    PoolM Unit := do
  match pod.podState with
  | none => return
  | some state => updatePortGroups answers state.defaultVif.id securityGroups

end KuryrKubernetes.Pool

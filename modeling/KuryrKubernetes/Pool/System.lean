import KuryrKubernetes.Pool.Recycling
import KuryrKubernetes.Transition.Run

/-!
# Runs of a pool driver

The driver, the Neutron ports behind it, and a record of which pod holds which
port.  An action is one call of a driver method together with the answers it
gets, a restart of the controller, or a change that somebody else makes to a
port in Neutron.  Neutron never gives out an id twice.
-/

namespace KuryrKubernetes.Pool

open KuryrKubernetes.Data
open KuryrKubernetes.Effect
open KuryrKubernetes.Transition

/-- The state of a run; `handed` lists the ports that `request_vif` returned for
a pod and that `release_vif` was not called for since, with the uid of the pod. -/
structure State where
  world : World := {}
  handed : List (String × String) := []

/-- The controller before it first runs `sync_pools`. -/
def initial (neutron : Dict String NeutronPort) : State where
  world := { neutron := neutron }

/-- What may happen in a run. -/
inductive Action where
  | requestVif (answers : Answers) (pod : Pod) (projectId : String)
      (subnets : Dict String Network) (securityGroups : List String)
  | populatePool (answers : Answers) (now : Int) (poolKey : PoolKey) (pod : Pod)
      (subnets : Dict String Network) (securityGroups : List String)
  | releaseVif (answers : Answers) (pod : Pod) (vif : Vif) (projectId : String)
  | triggerReturnToPool (answers : Answers)
  | restart
  | syncPools
  | recoverPools (answers : Answers)
  | removeSgFromPools (answers : Answers) (sgId netId : String)
  | updateVifSgs (answers : Answers) (pod : Pod) (securityGroups : List String)
  | changePort (port : String) (record : NeutronPort)

/-- Nobody has used the id so far. -/
def State.unused (state : State) (port : String) : Prop :=
  port ∉ state.world.neutron ∧ state.world.available port = 0 ∧
    state.world.recycling port = 0 ∧ port ∉ state.handed.map Prod.fst

instance (state : State) (port : String) : Decidable (state.unused port) :=
  inferInstanceAs (Decidable (_ ∧ _ ∧ _ ∧ _))

/-- The new ids of a population are distinct and unused. -/
def State.givesOut (state : State) (ids : List String) : Prop :=
  ids.Nodup ∧ ∀ port ∈ ids, state.unused port

instance (state : State) (ids : List String) : Decidable (state.givesOut ids) :=
  inferInstanceAs (Decidable (_ ∧ ∀ port ∈ ids, state.unused port))

/-- Somebody else creates a port, or changes one without touching its groups. -/
def World.changePort (world : World) (port : String) (record : NeutronPort) : World :=
  { world with
    neutron :=
      match world.neutron.get? port with
      | none => world.neutron.set port record
      | some old =>
          world.neutron.set port { record with securityGroupIds := old.securityGroupIds } }

/-- Record the port of a successful `request_vif`. -/
def State.handOut (state : State) (pod : Pod)
    (result : Except PyException (Option Vif) × World) : State where
  world := result.2
  handed :=
    match handedPort result.1 with
    | some port => (port, pod.uid) :: state.handed
    | none => state.handed

/-- Forget the port of a successful `release_vif`. -/
def State.takeBack (state : State) (pod : Pod) (vif : Vif)
    (result : Except PyException Unit × World) : State where
  world := result.2
  handed :=
    match result.1 with
    | .ok _ => state.handed.filter (· ≠ (vif.id, pod.uid))
    | .error _ => state.handed

section

variable (driver : Driver) (options : Options)

/-- One action.  A population is unavailable with ids that are not new. -/
def step : Step State Action
  | state, .requestVif answers pod projectId subnets securityGroups =>
      some (state.handOut pod
        (exec (requestVif driver options answers pod projectId subnets securityGroups)
          state.world))
  | state, .populatePool answers now poolKey pod subnets securityGroups =>
      if state.givesOut answers.newPortIds then
        some { state with
          world := (exec (populatePool driver options answers now poolKey pod subnets
            securityGroups) state.world).2 }
      else
        none
  | state, .releaseVif answers pod vif projectId =>
      some (state.takeBack pod vif
        (exec (releaseVif driver answers pod vif projectId) state.world))
  | state, .triggerReturnToPool answers =>
      some { state with
        world := (exec (triggerReturnToPool driver options answers) state.world).2 }
  | state, .restart =>
      some { state with world := { neutron := state.world.neutron } }
  | state, .syncPools =>
      some { state with world := (exec syncPools state.world).2 }
  | state, .recoverPools answers =>
      some { state with
        world := (exec (recoverPools driver options answers) state.world).2 }
  | state, .removeSgFromPools answers sgId netId =>
      some { state with
        world := (exec (removeSgFromPools answers sgId netId) state.world).2 }
  | state, .updateVifSgs answers pod securityGroups =>
      some { state with
        world := (exec (updateVifSgs answers pod securityGroups) state.world).2 }
  | state, .changePort port record =>
      some { state with world := state.world.changePort port record }

end

end KuryrKubernetes.Pool

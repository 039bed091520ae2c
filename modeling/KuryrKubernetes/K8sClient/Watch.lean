import KuryrKubernetes.Data.Replay
import KuryrKubernetes.Transition.Run
import Mathlib.Data.List.Perm.Basic

/-!
# Watching a resource

`K8sClient.watch` yields the events of a resource and opens a new connection where
one ends, asking for what follows the `resourceVersion` of the last event.  The
server keeps the history of the resource with increasing versions.  Asked for no
version it first sends a synthetic `ADDED` event for every existing object, in an
order of its own, and asked for a version it replays every event above it; from then
on it sends the events as they happen.
-/

namespace KuryrKubernetes.K8sClient

open KuryrKubernetes.Data
open KuryrKubernetes.Transition

inductive EventType where
  | added | modified | deleted
  deriving DecidableEq

/-- `metadata` of the object of an event. -/
structure Metadata where
  name : String
  resourceVersion : Option Nat
  deriving DecidableEq

/-- A line of the response.  `metadata` is what the line has under `object` and
`metadata`, if it has both. -/
structure LineDict where
  type : EventType
  metadata : Option Metadata
  deriving DecidableEq

/-- `m.get('resourceVersion', None)`. -/
def LineDict.resourceVersion (line : LineDict) : Option Nat :=
  line.metadata.bind fun metadata => metadata.resourceVersion

/-- An event of the history of a resource. -/
structure Event where
  type : EventType
  name : String
  version : Nat
  deriving DecidableEq

namespace Event

/-- The line that carries an event. -/
def line (event : Event) : LineDict :=
  ⟨event.type, some ⟨event.name, some event.version⟩⟩

/-- The event that stands for an object as the last event left it. -/
def synthetic (event : Event) : Event :=
  { event with type := .added }

/-- Both events show the same state of the same object. -/
def Shows (shown event : Event) : Prop :=
  shown.name = event.name ∧ shown.version = event.version

instance (shown event : Event) : Decidable (shown.Shows event) :=
  inferInstanceAs (Decidable (_ ∧ _))

end Event

/-! ## The client -/

/-- How a connection ends. -/
inductive Disconnection where
  | readTimeout
  | connectionError
  | sslError (timedOut : Bool)
  | chunkedEncodingError
  | closed
  deriving DecidableEq

/-- Whether `watch` goes on after the connection ended. -/
def Disconnection.retried : Disconnection → Bool
  | .sslError timedOut => timedOut
  | .readTimeout | .connectionError | .chunkedEncodingError | .closed => true

/-- The generator: its `resource_version`, what it has yielded, and whether it has
raised. -/
structure Watch where
  resourceVersion : Option Nat := none
  yielded : List LineDict := []
  raised : Bool := false
  deriving DecidableEq

namespace Watch

/-- One line of `response.iter_lines()`; a blank one is passed over. -/
def receive (watch : Watch) : Option LineDict → Watch
  | none => watch
  | some line =>
      { watch with
        yielded := watch.yielded ++ [line]
        resourceVersion := line.resourceVersion }

/-- The connection ends. -/
def interrupted (watch : Watch) (disconnection : Disconnection) : Watch :=
  { watch with raised := watch.raised || !disconnection.retried }

/-- The response is not ok: `K8sClientException` is raised. -/
def refused (watch : Watch) : Watch :=
  { watch with raised := true }

end Watch

/-! ## The client and the server -/

/-- The last events of the objects that exist after a history. -/
def existing (history : List Event) : List Event :=
  history.filter fun event =>
    event.type ≠ .deleted ∧
      ∀ other ∈ history, other.name = event.name → other.version ≤ event.version

/-- The history of the resource, what the open connection still has to send, and the
client.  `due` are the last events of the objects that existed at the first
connection and all events since, and `burst` is the latest list of the existing
objects sent. -/
structure World where
  history : List Event
  stream : Option (List Event) := none
  client : Watch := {}
  due : Option (List Event) := none
  burst : List Event := []
  deriving DecidableEq

/-- The server takes in an event, a connection is opened, refused or ended, a line is
read.  Where a connection starts with the existing objects, `connect` names the order
in which they come. -/
inductive Label where
  | commit (event : Event)
  | connect (burst : List Event)
  | refuse
  | deliver
  | keepAlive
  | disconnect (disconnection : Disconnection)

namespace World

/-- A new event is also sent over an open connection. -/
def commit (world : World) (event : Event) : Option World :=
  if ∀ other ∈ world.history, other.version < event.version then
    some
      { world with
        history := world.history ++ [event]
        stream := world.stream.map (· ++ [event])
        due := world.due.map (· ++ [event]) }
  else
    none

/-- `self.session.get(url, params=params, stream=True)`. -/
def connect (world : World) (burst : List Event) : Option World :=
  if world.stream = none ∧ world.client.raised = false then
    let started := { world with due := some (world.due.getD (existing world.history)) }
    match world.client.resourceVersion with
    | none =>
        if burst.Perm ((existing world.history).map Event.synthetic) then
          some { started with stream := some burst, burst }
        else
          none
    | some version =>
        some { started with stream := some (replay Event.version version world.history) }
  else
    none

/-- The next event arrives and is yielded. -/
def deliver (world : World) : Option World :=
  match world.stream with
  | some (event :: rest) =>
      some { world with stream := some rest, client := world.client.receive (some event.line) }
  | _ => none

end World

def step : Step World Label
  | world, .commit event => world.commit event
  | world, .connect burst => world.connect burst
  | world, .refuse =>
      if world.stream = none then some { world with client := world.client.refused } else none
  | world, .deliver => world.deliver
  | world, .keepAlive =>
      if world.stream = none then none else some { world with client := world.client.receive none }
  | world, .disconnect disconnection =>
      some { world with stream := none, client := world.client.interrupted disconnection }

/-- No connection has been opened yet. -/
def start (history : List Event) : World :=
  { history }

end KuryrKubernetes.K8sClient

import KuryrKubernetes.Handlers.Vif
import KuryrKubernetes.Transition.Run

/-!
# A pod, its events and its writers

The life of one pod at the API server, together with the handler that gets its
events one by one.  An event carries a copy of the pod as it was at some time.
Between the calls of the handler, and between the requests of `annotate`, other
writers may change the pod.  The handler decides from the copy alone, so what it
does up to its next request is one step.
-/

namespace KuryrKubernetes.Handlers.Events

open KuryrKubernetes.Data
open KuryrKubernetes.Effect
open KuryrKubernetes.Transition

/-! ## Serialized annotations -/

/-- Dictionaries that `dumps` writes alike, as it sorts the keys. -/
def sameItems {ν : Type} [DecidableEq ν] (first second : Dict String ν) : Bool :=
  decide (first.items.Perm second.items)

/-- VIF annotations that are written alike. -/
def sameState : Option PodState → Option PodState → Bool
  | none, none => true
  | some first, some second =>
      first.defaultVif = second.defaultVif ∧
        sameItems first.additionalVifs second.additionalVifs
  | _, _ => false

/-- Label annotations that are written alike. -/
def sameLabels : Option (Dict String String) → Option (Dict String String) → Bool
  | none, none => true
  | some first, some second => sameItems first second
  | _, _ => false

/-- The labels that `_set_pod_state` annotates. -/
def labelsToAnnotate (pod : Pod) : Option (Dict String String) :=
  pod.labels.filter fun labels => !labels.items.isEmpty

/-! ## States -/

/-- Where the handler is; `answers` are those of the running call, which handles
`event`. -/
inductive Phase where
  | idle
  /-- About to send a patch that names a resource version. -/
  | patching (answers : Answers) (pending : Pending) (event : Pod) (version : Nat)
  /-- About to read the pod again after a conflict. -/
  | comparing (answers : Answers) (pending : Pending) (event : Pod)

/-- What the running call is going to write. -/
def Phase.pending : Phase → Option Pending
  | idle => none
  | patching _ pending _ _ => some pending
  | comparing _ pending _ => some pending

/-- The pod at the API server, in its last version once it was deleted, all its
versions before, the handler, and the ports that were obtained for the pod and not
released since. -/
structure State where
  pod : Pod
  alive : Bool := true
  past : List Pod := []
  phase : Phase := .idle
  allocated : List String := []

/-- A pod as it was created. -/
def initial (pod : Pod) : State where
  pod := { pod with vifAnnotation := none }

/-- Run a part of the handler. -/
def State.handle {α : Type} (state : State) (program : HandlerM α) :
    Except PyException α × State :=
  let (result, call) := exec program {}
  (result,
    { state with
      allocated := (state.allocated ++ call.obtained.map (·.id)).filter
        (· ∉ call.released.map (·.id)) })

/-- The running call goes on with the end of `_set_pod_state`. -/
def State.finish (state : State) (answers : Answers) (pending : Pending)
    (outcome : Except PyException Unit) : State :=
  (({ state with phase := .idle } : State).handle
    (onPresentFinish answers pending outcome)).2

/-- The pod gets a new version. -/
def State.write (state : State) (pod : Pod) : State :=
  { state with
    pod := { pod with resourceVersion := state.pod.resourceVersion + 1 }
    past := state.pod :: state.past }

/-- Another writer changes what can be changed of a pod. -/
def State.update (state : State) (pod : Pod) : State :=
  state.write
    { pod with
      name := state.pod.name
      namespaceName := state.pod.namespaceName
      uid := state.pod.uid }

/-- The patch of `_set_pod_state` takes effect. -/
def State.store (state : State) (pending : Pending) (event : Pod) : State :=
  state.write
    { state.pod with
      vifAnnotation := pending.state
      labelAnnotation := labelsToAnnotate event }

/-! ## Steps -/

/-- How a patch request ends. -/
inductive PatchReply where
  | answered
  /-- The API server turns the request down. -/
  | refused (ex : PyException)
  /-- No response arrives. -/
  | lost (ex : PyException) (applied : Bool)

/-- How the request of the pod after a conflict ends. -/
inductive GetReply where
  | answered
  | failed (ex : PyException)

inductive Action where
  /-- Another writer changes the pod. -/
  | update (pod : Pod)
  /-- The pod is deleted. -/
  | delete
  /-- An `ADDED` or `MODIFIED` event, or the same one again. -/
  | present (event : Pod) (answers : Answers)
  /-- The `DELETED` event. -/
  | deleted (answers : Answers)
  /-- The handler sends its patch. -/
  | patch (reply : PatchReply)
  /-- The handler reads the pod after a conflict. -/
  | get (reply : GetReply)

/-- A call of `on_present` up to its first patch. -/
def present (state : State) (event : Pod) (answers : Answers) : State :=
  match state.handle (onPresentStart answers event) with
  | (.ok (some pending), after) =>
      { after with phase := .patching answers pending event event.resourceVersion }
  | (_, after) => after

/-- The patch request in the loop of `annotate`. -/
def patch (state : State) (answers : Answers) (pending : Pending) (event : Pod)
    (version : Nat) : PatchReply → Option State
  | .answered =>
      if !state.alive then
        some (state.finish answers pending (.error .k8sResourceNotFound))
      else if version = state.pod.resourceVersion then
        some ((state.store pending event).finish answers pending (.ok ()))
      else
        some { state with phase := .comparing answers pending event }
  | .refused ex =>
      if ex.isK8sClientException then
        some (state.finish answers pending (.error ex))
      else
        none
  | .lost ex applied =>
      if ex.isK8sClientException then
        none
      else if !applied then
        some (state.finish answers pending (.error ex))
      else if state.alive ∧ version = state.pod.resourceVersion then
        some ((state.store pending event).finish answers pending (.error ex))
      else
        none

/-- The request of the pod in the loop of `annotate`: nothing is left to do when the
annotations are there already. -/
def get (state : State) (answers : Answers) (pending : Pending) (event : Pod) :
    GetReply → State
  | .answered =>
      if !state.alive then
        state.finish answers pending (.error .k8sResourceNotFound)
      else if sameState state.pod.vifAnnotation pending.state ∧
          sameLabels state.pod.labelAnnotation (labelsToAnnotate event) then
        state.finish answers pending (.ok ())
      else
        { state with
          phase := .patching answers pending event state.pod.resourceVersion }
  | .failed ex => state.finish answers pending (.error ex)

/-- One step of the API server, another writer or the handler. -/
def step : Step State Action
  | state, .update pod => if state.alive then some (state.update pod) else none
  | state, .delete => if state.alive then some { state with alive := false } else none
  | state, .present event answers =>
      match state.phase with
      | .idle => if event ∈ state.pod :: state.past then some (present state event answers) else none
      | _ => none
  | state, .deleted answers =>
      match state.phase with
      | .idle => if state.alive then none else some (state.handle (onDeleted answers state.pod)).2
      | _ => none
  | state, .patch reply =>
      match state.phase with
      | .patching answers pending event version =>
          patch state answers pending event version reply
      | _ => none
  | state, .get reply =>
      match state.phase with
      | .comparing answers pending event => some (get state answers pending event reply)
      | _ => none

end KuryrKubernetes.Handlers.Events

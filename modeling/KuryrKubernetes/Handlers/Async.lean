import KuryrKubernetes.Transition.Keyed

/-!
# Asynchronous handling of events

`Async` keeps a queue and a thread for every group of related events.  A thread is
switched out at `queue.get`, `queue.put`, `time.sleep` and inside the handler only,
and one step here takes one thread from a switch point to its next one.  A thread
that times out on its queue returns, and `_done` drops the queue in the same step.

The state is that of one group; a step concerns one group, and the whole `Async` is
the family of its groups.
-/

namespace KuryrKubernetes.Handlers.Async

open KuryrKubernetes.Transition

universe u v

/-- An event handed to `__call__`, with its number among those of its group. -/
structure Arrival (ε : Type u) where
  number : Nat
  event : ε
  deriving DecidableEq

/-- Where `_run` is switched out. -/
inductive Place (ε : Type u) where
  | waiting                          -- `queue.get(timeout=self._grace_period)`
  | sleeping (event : Arrival ε)     -- `time.sleep(STALE_PERIOD)`
  | fetching (event : Arrival ε)     -- `queue.get()` of the inner loop
  | handling (event : Arrival ε)     -- `self._handler(event)`
  | finished
  deriving DecidableEq

namespace Place

variable {ε : Type u}

/-- The event taken from the queue and not yet handed to the handler. -/
def held : Place ε → Option (Arrival ε)
  | sleeping event | fetching event => some event
  | waiting | handling _ | finished => none

/-- The event inside the handler. -/
def handled : Place ε → Option (Arrival ε)
  | handling event => some event
  | waiting | sleeping _ | fetching _ | finished => none

end Place

/-- A thread running `_run(group, queue)`, its queue, and the events whose callers
are inside `queue.put(event)`, in the order of the calls. -/
structure Thread (ε : Type u) where
  queue : List (Arrival ε) := []
  putting : List (Arrival ε) := []
  place : Place ε := .waiting
  deriving DecidableEq

namespace Thread

variable {ε : Type u}

def Alive (thread : Thread ε) : Prop :=
  thread.place ≠ .finished

/-- `maxsize` zero stands for a queue without bound. -/
def room (depth : Nat) (thread : Thread ε) : Bool :=
  depth == 0 || thread.queue.length < depth

/-- The `put` of one caller takes effect. -/
def put (depth position : Nat) (thread : Thread ε) : Option (Thread ε) :=
  match thread.putting[position]? with
  | none => none
  | some event =>
      if thread.room depth then
        some
          { thread with
            queue := thread.queue ++ [event]
            putting := thread.putting.eraseIdx position }
      else
        none

/-- The test of `while not queue.empty()`. -/
def drain (event : Arrival ε) (queue : List (Arrival ε)) : Place ε :=
  if queue.isEmpty then .handling event else .fetching event

/-- `_run` continues to its next switch point. -/
def resume (thread : Thread ε) : Option (Thread ε) :=
  match thread.place with
  | .waiting =>
      match thread.queue with
      | [] => none
      | event :: rest => some { thread with queue := rest, place := .sleeping event }
  | .sleeping event => some { thread with place := drain event thread.queue }
  | .fetching _ =>
      match thread.queue with
      | [] => none
      | event :: rest =>
          some
            { thread with
              queue := rest
              place := if rest.isEmpty then .sleeping event else drain event rest }
  | .handling _ => some { thread with place := .waiting }
  | .finished => none

/-- `queue.get` raises `Empty` and `_run` returns. -/
def timeout (thread : Thread ε) : Option (Thread ε) :=
  match thread.place, thread.queue with
  | .waiting, [] => some { thread with place := .finished }
  | _, _ => none

end Thread

/-- One group: its entry in `self._queues`, the threads started for it, each with
its queue, and the events handed to `__call__` and to the handler so far. -/
structure Lane (ε : Type u) where
  entry : Option Nat := none
  threads : List (Thread ε) := []
  arrived : List (Arrival ε) := []
  handled : List (Arrival ε) := []
  deriving DecidableEq

/-- A caller enters, a `put` takes effect, a thread is resumed or times out. -/
inductive Action (ε : Type u) where
  | call (event : ε)
  | put (thread position : Nat)
  | resume (thread : Nat)
  | timeout (thread : Nat)

namespace Lane

variable {ε : Type u}

/-- Replace a thread. -/
def setThread (lane : Lane ε) (i : Nat) (thread : Thread ε) : Lane ε :=
  { lane with threads := lane.threads.set i thread }

/-- `__call__` up to the `queue.put(event)` that the caller is then inside of. -/
def call (lane : Lane ε) (event : ε) : Option (Lane ε) :=
  let arrival := ⟨lane.arrived.length, event⟩
  let noted := { lane with arrived := lane.arrived ++ [arrival] }
  match lane.entry with
  | none =>
      some
        { noted with
          entry := some lane.threads.length
          threads := lane.threads ++ [{ putting := [arrival] }] }
  | some i =>
      (lane.threads[i]?).map fun thread =>
        noted.setThread i { thread with putting := thread.putting ++ [arrival] }

/-- `_run` of one thread continues; the handler is called where it gets there. -/
def resume (lane : Lane ε) (i : Nat) : Option (Lane ε) := do
  let thread ← lane.threads[i]?
  let later ← thread.resume
  some { lane.setThread i later with handled := lane.handled ++ later.place.handled.toList }

/-- `_run` of one thread returns, and `_done` pops the queue of the group. -/
def timeout (lane : Lane ε) (i : Nat) : Option (Lane ε) := do
  let thread ← lane.threads[i]?
  let later ← thread.timeout
  some { lane.setThread i later with entry := none }

/-- One step of one group. -/
def step (depth : Nat) : Step (Lane ε) (Action ε)
  | lane, .call event => lane.call event
  | lane, .put i position => do
      let thread ← lane.threads[i]?
      let later ← thread.put depth position
      some (lane.setThread i later)
  | lane, .resume i => lane.resume i
  | lane, .timeout i => lane.timeout i

end Lane

/-- A call is about the group of its event. -/
def concerns {ε : Type u} {γ : Type v} [DecidableEq γ] (groupBy : ε → γ) :
    Action ε → γ → Bool
  | .call event, group => groupBy event = group
  | .put _ _, _ | .resume _, _ | .timeout _, _ => true

/-- All groups of an `Async` with queues of the given depth. -/
def step {ε : Type u} {γ : Type v} [DecidableEq γ] (depth : Nat) (groupBy : ε → γ) :
    Step (γ → Lane ε) (γ × Action ε) :=
  keyed (concerns groupBy) (Lane.step depth)

/-- No event has come yet. -/
def start {ε : Type u} {γ : Type v} : γ → Lane ε :=
  fun _ => {}

end KuryrKubernetes.Handlers.Async

import KuryrKubernetes.Handlers.AsyncRuns
import KuryrKubernetes.Handlers.Dispatch

/-!
# The event pipeline

`ControllerPipeline` puts the dispatcher behind an `Async` that groups the events by the
`uid` of their objects, and every consumer behind a `Retry` of its own.  `LogExceptions`
around the `Retry` ends every call of a handler normally, so the loop of
`Dispatcher.__call__` always goes on.  A thread of `Async` resumes when that loop is over.
-/

namespace KuryrKubernetes.Handlers.Pipeline

open KuryrKubernetes.Data
open KuryrKubernetes.Transition
open KuryrKubernetes.Handlers.Async

universe u v w

variable {ε : Type u} {γ : Type v} {κ : Type w} [DecidableEq γ] [DecidableEq κ]

/-- A call of a handler for an event, with how the `Retry` inside has ended. -/
structure Made (ε : Type u) (κ : Type w) where
  handler : κ
  arrival : Arrival ε
  outcome : Outcome
  deriving DecidableEq

/-- The groups of `Async`, the handlers that the loop of `Dispatcher.__call__` has yet to
come to, and the calls that were made. -/
structure Site (ε : Type u) (γ : Type v) (κ : Type w) where
  lanes : γ → Lane ε
  remaining : γ → List κ
  made : γ → List (Made ε κ)

/-- `Async` takes a step, where the dispatcher, if it is called, comes to its handlers in
some order, or a handler is called. -/
inductive Label (ε : Type u) (γ : Type v) (κ : Type w) where
  | async (group : γ) (action : Action ε) (order : List κ)
  | handler (group : γ) (outcome : Outcome)

/-- A thread goes on. -/
def resumes : Action ε → Bool
  | .resume _ => true
  | _ => false

/-- `Async` takes a step. -/
def asyncStep (depth : Nat) (groupBy : ε → γ) (handlers : ε → List κ) (site : Site ε γ κ)
    (group : γ) (action : Action ε) (order : List κ) : Option (Site ε γ κ) :=
  if resumes action ∧ site.remaining group ≠ [] then none
  else
    (Async.step depth groupBy site.lanes (group, action)).bind fun lanes =>
      match (lanes group).handled.drop (site.lanes group).handled.length with
      | [] => if order = [] then some { site with lanes } else none
      | arrival :: _ =>
          if order.Perm (handlers arrival.event) then
            some { site with lanes, remaining := Function.update site.remaining group order }
          else
            none

/-- One step of the pipeline. -/
def step (depth : Nat) (groupBy : ε → γ) (handlers : ε → List κ) :
    Step (Site ε γ κ) (Label ε γ κ)
  | site, .async group action order => asyncStep depth groupBy handlers site group action order
  | site, .handler group outcome =>
      match site.remaining group, (site.lanes group).handled.getLast? with
      | handler :: rest, some arrival =>
          some
            { site with
              remaining := Function.update site.remaining group rest
              made := Function.update site.made group
                (site.made group ++ [⟨handler, arrival, outcome⟩]) }
      | _, _ => none

/-- Nothing has come yet. -/
def start : Site ε γ κ where
  lanes := Async.start
  remaining _ := []
  made _ := []

/-- The condition of `Async` on its steps. -/
def Orderly (site : Site ε γ κ) : Label ε γ κ → Prop
  | .async group action _ => Async.Orderly (site.lanes group) action
  | .handler _ _ => True

/-- The events that a handler was called for. -/
def callsOf (handler : κ) (made : List (Made ε κ)) : List (Arrival ε) :=
  (made.filter (·.handler = handler)).map Made.arrival

/-! ## One group -/

/-- A handler was called for the events that `Async` has handled and the handler is for,
except perhaps the last one, which the loop of the dispatcher is still busy with. -/
structure Delivered (handlers : ε → List κ) (lane : Lane ε) (remaining : List κ)
    (made : List (Made ε κ)) : Prop where
  nodup : remaining.Nodup
  calls : ∀ handler,
    callsOf handler made ++ (if handler ∈ remaining then lane.handled.getLast?.toList else []) =
      lane.handled.filter fun arrival => handler ∈ handlers arrival.event

/-- A step of a group calls the handler of `Async` at most once, where a thread resumes. -/
theorem handled_step {depth : Nat} {lane after : Lane ε} {action : Action ε}
    (taken : Lane.step depth lane action = some after) :
    after.handled = lane.handled ∨
      resumes action = true ∧ ∃ arrival, after.handled = lane.handled ++ [arrival] := by
  cases action with
  | call event =>
      left
      simp only [Lane.step, Lane.call] at taken
      split at taken
      · cases taken
        rfl
      · obtain ⟨thread, _, rfl⟩ := Option.map_eq_some_iff.mp taken
        rfl
  | put i position =>
      left
      obtain ⟨thread, _, taken⟩ := Option.bind_eq_some_iff.mp taken
      obtain ⟨later, _, same⟩ := Option.bind_eq_some_iff.mp taken
      cases same
      rfl
  | timeout i =>
      left
      obtain ⟨thread, _, taken⟩ := Option.bind_eq_some_iff.mp taken
      obtain ⟨later, _, same⟩ := Option.bind_eq_some_iff.mp taken
      cases same
      rfl
  | resume i =>
      obtain ⟨thread, _, taken⟩ := Option.bind_eq_some_iff.mp taken
      obtain ⟨later, _, same⟩ := Option.bind_eq_some_iff.mp taken
      cases same
      cases entered : later.place.handled with
      | none =>
          left
          simp
      | some arrival =>
          right
          exact ⟨rfl, arrival, by simp⟩

variable {handlers : ε → List κ} {lane after : Lane ε} {remaining : List κ}
  {made : List (Made ε κ)}

/-- `Async` takes a step without calling the dispatcher. -/
theorem Delivered.quiet (delivered : Delivered handlers lane remaining made)
    (same : after.handled = lane.handled) : Delivered handlers after remaining made where
  nodup := delivered.nodup
  calls := by
    intro handler
    rw [same]
    exact delivered.calls handler

/-- The dispatcher is called. -/
theorem Delivered.dispatch {arrival : Arrival ε} {order : List κ}
    (delivered : Delivered handlers lane [] made)
    (entered : after.handled = lane.handled ++ [arrival])
    (ordered : order.Perm (handlers arrival.event)) (distinct : (handlers arrival.event).Nodup) :
    Delivered handlers after order made where
  nodup := ordered.nodup_iff.mpr distinct
  calls := by
    intro handler
    have earlier := delivered.calls handler
    rw [if_neg List.not_mem_nil, List.append_nil] at earlier
    rw [entered, List.filter_append, ← earlier]
    by_cases concerned : handler ∈ handlers arrival.event
    · simp [ordered.mem_iff, concerned]
    · simp [ordered.mem_iff, concerned]

/-- A handler is called; how it ends does not matter. -/
theorem Delivered.handler {handler : κ} {rest : List κ} {arrival : Arrival ε}
    (delivered : Delivered handlers lane (handler :: rest) made)
    (last : lane.handled.getLast? = some arrival) (outcome : Outcome) :
    Delivered handlers lane rest (made ++ [⟨handler, arrival, outcome⟩]) where
  nodup := delivered.nodup.of_cons
  calls := by
    intro other
    have fresh : handler ∉ rest := (List.nodup_cons.mp delivered.nodup).1
    rw [← delivered.calls other, last]
    by_cases own : other = handler
    · subst other
      simp [callsOf, fresh]
    · simp [callsOf, own, Ne.symm own]

/-! ## Runs -/

/-- All groups. -/
theorem delivered_step {depth : Nat} {groupBy : ε → γ}
    (distinct : ∀ event, (handlers event).Nodup) {guard : Site ε γ κ → Label ε γ κ → Prop} :
    PreservedBy (step depth groupBy handlers) guard fun site =>
      ∀ group, Delivered handlers (site.lanes group) (site.remaining group) (site.made group) := by
  intro site label after _ delivered taken
  cases label with
  | handler group outcome =>
      simp only [step] at taken
      split at taken
      · rename_i handler rest arrival there last
        cases taken
        intro other
        by_cases here : other = group
        · subst other
          have before := delivered group
          rw [there] at before
          simpa using before.handler last outcome
        · simpa [here] using delivered other
      · cases taken
  | async group action order =>
      simp only [step, asyncStep] at taken
      split at taken
      · cases taken
      rename_i free
      obtain ⟨lanes, moved, taken⟩ := Option.bind_eq_some_iff.mp taken
      simp only [Async.step, keyed, Option.ite_none_right_eq_some] at moved
      obtain ⟨_, moved⟩ := moved
      obtain ⟨lane, stepped, rfl⟩ := Option.map_eq_some_iff.mp moved
      rw [Function.update_self] at taken
      rcases handled_step stepped with same | ⟨goesOn, arrival, entered⟩
      · rw [same, List.drop_length] at taken
        obtain ⟨_, taken⟩ := Option.ite_none_right_eq_some.mp taken
        cases taken
        intro other
        by_cases here : other = group
        · subst other
          simpa using (delivered group).quiet same
        · simpa [here] using delivered other
      · rw [entered, List.drop_left] at taken
        obtain ⟨ordered, taken⟩ := Option.ite_none_right_eq_some.mp taken
        cases taken
        have ended : site.remaining group = [] := by
          by_contra left
          exact free ⟨goesOn, left⟩
        intro other
        by_cases here : other = group
        · subst other
          have before := delivered group
          rw [ended] at before
          simpa using before.dispatch entered ordered (distinct arrival.event)
        · simpa [here] using delivered other

/-- What `Async` does in a run of the pipeline, it does by itself. -/
theorem guardedRun_async {depth : Nat} {groupBy : ε → γ} {labels : List (Label ε γ κ)}
    {source target : Site ε γ κ}
    (ran : GuardedRun (step depth groupBy handlers) Orderly source labels target) :
    ∃ actions, GuardedRun (Async.step depth groupBy) (AtKey Async.Orderly) source.lanes actions
      target.lanes := by
  induction ran with
  | nil site => exact ⟨[], .nil _⟩
  | @cons source middle target label rest allowed taken _ ih =>
      obtain ⟨actions, later⟩ := ih
      cases label with
      | handler group outcome =>
          simp only [step] at taken
          split at taken
          · cases taken
            exact ⟨actions, later⟩
          · cases taken
      | async group action order =>
          simp only [step, asyncStep] at taken
          split at taken
          · cases taken
          obtain ⟨lanes, moved, taken⟩ := Option.bind_eq_some_iff.mp taken
          have same : middle.lanes = lanes := by
            split at taken
            · obtain ⟨_, taken⟩ := Option.ite_none_right_eq_some.mp taken
              cases taken
              rfl
            · obtain ⟨_, taken⟩ := Option.ite_none_right_eq_some.mp taken
              cases taken
              rfl
          rw [same] at later
          exact ⟨(group, action) :: actions, .cons allowed moved later⟩

/-- The dispatcher has come to its end, and no event of the group is on its way. -/
def Site.AtRest (site : Site ε γ κ) (group : γ) : Prop :=
  site.remaining group = [] ∧ ∀ event, ¬ (site.lanes group).Pending event

instance (site : Site ε γ κ) (label : Label ε γ κ) : Decidable (Orderly site label) :=
  match label with
  | .async group action _ => inferInstanceAs (Decidable (Async.Orderly (site.lanes group) action))
  | .handler _ _ => isTrue trivial

/-- What was handled is in order, so the last arrival, if handled, was handled last. -/
theorem getLast?_handled {lane : Lane ε} {arrival : Arrival ε} (sound : lane.Sound)
    (last : lane.arrived.getLast? = some arrival) (handled : arrival ∈ lane.handled) :
    lane.handled.getLast? = some arrival := by
  have order : lane.handled.Sublist lane.arrived := sound.conflated.sublist
  obtain ⟨earlier, split⟩ := List.getLast?_eq_some_iff.mp last
  rcases found : lane.handled.getLast? with _ | newest
  · rw [List.getLast?_eq_none_iff] at found
    rw [found] at handled
    cases handled
  obtain ⟨before, splitToo⟩ := List.getLast?_eq_some_iff.mp found
  have came : newest ∈ earlier ++ [arrival] := by
    rw [← split]
    exact order.subset (by simp [splitToo])
  rw [splitToo, List.mem_append, List.mem_singleton] at handled
  rcases handled with older | rfl
  · rcases List.mem_append.mp came with old | same
    · -- the two would have to be numbered both ways round
      have upwards := sound.increasing.sublist order
      rw [splitToo, List.pairwise_append] at upwards
      have later := upwards.2.2 arrival older newest (by simp)
      have downwards := sound.increasing
      rw [split, List.pairwise_append] at downwards
      exact absurd (downwards.2.2 newest old arrival (by simp)) (by omega)
    · rw [List.mem_singleton.mp same]
  · rfl

variable {φ : Type*} {ν : Type*} {χ : Type*} [DecidableEq φ] [DecidableEq ν]

/-- A pod is added. -/
def TwoForPods.podAdded : WatchedEvent Unit where
  type := some .added
  object := some ⟨some "Pod", some "uid-1", none, ()⟩

/-- `consumes` of a handler for objects of a kind. -/
def TwoForPods.consumes (kind : String) : Dict Unit (Option String) :=
  .ofList [((), some kind)]

/-- The dispatcher with the three handlers. -/
def TwoForPods.dispatched : WatchedEvent Unit → List Nat :=
  (EventPipeline.ofConsumers consumes ["Pod", "Namespace", "Pod"]).dispatcher.handlers
    fun _ event => event.objectKind

/-- The pod comes, and both handlers are called for it. -/
def TwoForPods.labels : List (Label (WatchedEvent Unit) (Option String) Nat) :=
  [.async (some "uid-1") (.call podAdded) [], .async (some "uid-1") (.put 0 0) [],
    .async (some "uid-1") (.resume 0) [], .async (some "uid-1") (.resume 0) [0, 2],
    .handler (some "uid-1") (.raised .attributeError false),
    .handler (some "uid-1") .returned]

end KuryrKubernetes.Handlers.Pipeline

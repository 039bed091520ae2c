import KuryrKubernetes.Data.Dict
import KuryrKubernetes.Handlers.Retry
import Mathlib.Data.List.Dedup

/-!
# Dispatching events

A `Dispatcher` keeps handlers under pairs of a key function and a key, and calls for an
event all handlers that are kept under the event's own keys.  An `EventPipeline` wraps
every consumer into a handler of its own and registers it under all its predicates.  The
order in which `Dispatcher.__call__` comes to its handlers, a `set`, is not determined.
-/

namespace KuryrKubernetes.Handlers

open KuryrKubernetes.Data

universe u v w

/-! ## Events -/

/-- An object of an event, as far as the pipeline reads it. -/
structure WatchedObject (β : Type u) where
  kind : Option String
  uid : Option String
  deletionTimestamp : Option String
  body : β
  deriving DecidableEq

/-- An event as the watcher hands it to the pipeline. -/
structure WatchedEvent (β : Type u) where
  type : Option WatchType
  object : Option (WatchedObject β)
  deriving DecidableEq

namespace WatchedEvent

variable {β : Type u}

/-- `object_kind`. -/
def objectKind (event : WatchedEvent β) : Option String :=
  event.object.bind WatchedObject.kind

/-- `object_uid`. -/
def objectUid (event : WatchedEvent β) : Option String :=
  event.object.bind WatchedObject.uid

end WatchedEvent

/-- The methods of a `ResourceEventHandler`. -/
inductive Method where
  | onAdded
  | onModified
  | onPresent
  | onFinalize
  | onDeleted
  deriving DecidableEq

namespace ResourceEventHandler

variable {β : Type u}

/-- `_check_finalize`: the time of deletion is there and not the empty text. -/
def checkFinalize (object : Option (WatchedObject β)) : Bool :=
  (object.bind WatchedObject.deletionTimestamp).any (· != "")

/-- The methods that `__call__` calls for an event. -/
def methods (event : WatchedEvent β) : List Method :=
  match event.type with
  | some .modified =>
      if checkFinalize event.object then [.onFinalize] else [.onModified, .onPresent]
  | some .added =>
      if checkFinalize event.object then [.onFinalize] else [.onAdded, .onPresent]
  | some .deleted => [.onDeleted]
  | _ => []

/-- The methods are called up to the first one that raises. -/
def callAll (raises : Method → Option Raised) : List Method → List Method × Option Raised
  | [] => ([], none)
  | method :: rest =>
      match raises method with
      | some exception => ([method], some exception)
      | none =>
          let (called, raised) := callAll raises rest
          (method :: called, raised)

/-- `__call__`: the methods that were called, and what was raised. -/
def call (raises : Method → Option Raised) (event : WatchedEvent β) :
    List Method × Option Raised :=
  callAll raises (methods event)

theorem callAll_eq_of_none {raises : Method → Option Raised} {wanted : List Method}
    (returned : (callAll raises wanted).2 = none) : (callAll raises wanted).1 = wanted := by
  induction wanted with
  | nil => rfl
  | cons method rest ih =>
      cases raised : raises method with
      | some exception => simp [callAll, raised] at returned
      | none =>
          simp only [callAll, raised] at returned ⊢
          rw [ih returned]

/-- A handler that returns has been told of an object that exists by `on_present`, of one
that is going away by `on_finalize` alone, and of one that is gone by `on_deleted`. -/
theorem call_returned {raises : Method → Option Raised} {event : WatchedEvent β}
    (returned : (call raises event).2 = none) :
    (event.type = some .deleted → (call raises event).1 = [.onDeleted]) ∧
    (event.type = some .added ∨ event.type = some .modified →
      (checkFinalize event.object = true → (call raises event).1 = [.onFinalize]) ∧
      (checkFinalize event.object = false →
        (call raises event).1.getLast? = some .onPresent)) := by
  rw [call, callAll_eq_of_none returned]
  constructor
  · intro gone
    simp [methods, gone]
  · rintro (there | there)
    · simp +contextual [methods, there]
    · simp +contextual [methods, there]

end ResourceEventHandler

/-! ## The dispatcher -/

/-- `_registry`: the handlers under each key function and key. -/
structure Dispatcher (φ : Type u) (ν : Type v) (κ : Type w) where
  registry : Dict φ (Dict ν (List κ)) := ∅

namespace Dispatcher

variable {φ : Type u} {ν : Type v} {κ : Type w} [DecidableEq φ] [DecidableEq ν]
  [DecidableEq κ] {ε : Type*}

/-- `register`. -/
def register (dispatcher : Dispatcher φ ν κ) (keyFn : φ) (key : ν) (handler : κ) :
    Dispatcher φ ν κ where
  registry := dispatcher.registry.alter keyFn ∅ fun keyGroup =>
    keyGroup.alter key [] (· ++ [handler])

/-- The `set` of handlers that `__call__` calls for an event. -/
def handlers (keyOf : φ → ε → ν) (dispatcher : Dispatcher φ ν κ) (event : ε) : List κ :=
  (dispatcher.registry.items.flatMap fun group =>
    group.2.getD (keyOf group.1 event) []).dedup

/-- A handler is kept under a key function and a key. -/
def Keeps (dispatcher : Dispatcher φ ν κ) (keyFn : φ) (key : ν) (handler : κ) : Prop :=
  handler ∈ (dispatcher.registry.getD keyFn ∅).getD key []

omit [DecidableEq κ] in
theorem keeps_register {dispatcher : Dispatcher φ ν κ} {keyFn other : φ} {key otherKey : ν}
    {handler otherHandler : κ} :
    (dispatcher.register keyFn key handler).Keeps other otherKey otherHandler ↔
      dispatcher.Keeps other otherKey otherHandler ∨
        other = keyFn ∧ otherKey = key ∧ otherHandler = handler := by
  by_cases sameFn : other = keyFn
  · subst other
    by_cases sameKey : otherKey = key
    · subst otherKey
      simp [Keeps, register, Dict.alter, Dict.getD]
    · simp [Keeps, register, Dict.alter, Dict.getD, Dict.get?_set, sameKey]
  · simp [Keeps, register, Dict.alter, Dict.getD, Dict.get?_set, sameFn]

omit [DecidableEq φ] in
theorem nodup_handlers (keyOf : φ → ε → ν) (dispatcher : Dispatcher φ ν κ) (event : ε) :
    (dispatcher.handlers keyOf event).Nodup :=
  List.nodup_dedup _

/-- The handlers of an event are those kept under one of its keys. -/
theorem mem_handlers {keyOf : φ → ε → ν} {dispatcher : Dispatcher φ ν κ} {event : ε}
    {handler : κ} :
    handler ∈ dispatcher.handlers keyOf event ↔
      ∃ keyFn, dispatcher.Keeps keyFn (keyOf keyFn event) handler := by
  simp only [handlers, List.mem_dedup, List.mem_flatMap]
  constructor
  · rintro ⟨⟨keyFn, keyGroup⟩, listed, member⟩
    refine ⟨keyFn, ?_⟩
    rw [Keeps, Dict.getD_of_get?_eq_some ∅ (Dict.mem_items_iff.mp listed)]
    exact member
  · rintro ⟨keyFn, kept⟩
    cases found : dispatcher.registry.get? keyFn with
    | none =>
        rw [Keeps, Dict.getD_of_get?_eq_none ∅ found] at kept
        cases kept
    | some keyGroup =>
        rw [Keeps, Dict.getD_of_get?_eq_some ∅ found] at kept
        exact ⟨(keyFn, keyGroup), Dict.mem_items_iff.mpr found, kept⟩

end Dispatcher

/-! ## The pipeline's consumers -/

/-- The consumers that were registered, each with a handler named by its position. -/
structure EventPipeline (φ : Type u) (ν : Type v) (χ : Type w) where
  consumers : List χ := []
  dispatcher : Dispatcher φ ν Nat := {}

namespace EventPipeline

variable {φ : Type u} {ν : Type v} {χ : Type w} [DecidableEq φ] [DecidableEq ν]
  {ε : Type*} {consumes : χ → Dict φ ν} {keyOf : φ → ε → ν}

/-- `register`. -/
def register (consumes : χ → Dict φ ν) (pipeline : EventPipeline φ ν χ) (consumer : χ) :
    EventPipeline φ ν χ where
  consumers := pipeline.consumers ++ [consumer]
  dispatcher := (consumes consumer).items.foldl
    (fun dispatcher predicate =>
      dispatcher.register predicate.1 predicate.2 pipeline.consumers.length)
    pipeline.dispatcher

/-- A pipeline with these consumers. -/
def ofConsumers (consumes : χ → Dict φ ν) (consumers : List χ) : EventPipeline φ ν χ :=
  consumers.foldl (register consumes) {}

/-- One of the predicates of the consumer holds of the event. -/
def takes (consumes : χ → Dict φ ν) (keyOf : φ → ε → ν) (consumer : χ) (event : ε) : Bool :=
  (consumes consumer).items.any fun predicate => keyOf predicate.1 event = predicate.2

theorem takes_iff {consumer : χ} {event : ε} :
    takes consumes keyOf consumer event = true ↔
      ∃ keyFn, (consumes consumer).get? keyFn = some (keyOf keyFn event) := by
  simp only [takes, List.any_eq_true, decide_eq_true_eq, Prod.exists, Dict.mem_items_iff]
  constructor
  · rintro ⟨keyFn, key, found, rfl⟩
    exact ⟨keyFn, found⟩
  · rintro ⟨keyFn, found⟩
    exact ⟨keyFn, _, found, rfl⟩

theorem keeps_predicates {predicates : List (φ × ν)} {dispatcher : Dispatcher φ ν Nat}
    {keyFn : φ} {key : ν} {handler position : Nat} :
    (predicates.foldl
      (fun dispatcher predicate => dispatcher.register predicate.1 predicate.2 position)
      dispatcher).Keeps keyFn key handler ↔
      dispatcher.Keeps keyFn key handler ∨ (keyFn, key) ∈ predicates ∧ handler = position := by
  induction predicates generalizing dispatcher with
  | nil => simp
  | cons predicate rest ih =>
      obtain ⟨otherFn, otherKey⟩ := predicate
      rw [List.foldl_cons, ih, Dispatcher.keeps_register]
      simp only [List.mem_cons, Prod.mk.injEq]
      tauto

/-- What the registry keeps, for any consumers. -/
theorem keeps_ofConsumers (consumers : List χ) :
    (ofConsumers consumes consumers).consumers = consumers ∧
    ∀ keyFn key handler, (ofConsumers consumes consumers).dispatcher.Keeps keyFn key handler ↔
      ∃ consumer, consumers[handler]? = some consumer ∧
        (consumes consumer).get? keyFn = some key := by
  induction consumers using List.reverseRecOn with
  | nil =>
      constructor
      · rfl
      · intro keyFn key handler
        simp [ofConsumers, Dispatcher.Keeps, Dict.getD]
  | append_singleton earlier consumer ih =>
      obtain ⟨same, kept⟩ := ih
      have unfolded : ofConsumers consumes (earlier ++ [consumer]) =
          register consumes (ofConsumers consumes earlier) consumer := by
        simp [ofConsumers]
      rw [unfolded]
      constructor
      · rw [register, same]
      · intro keyFn key handler
        rw [register, keeps_predicates, kept, same, Dict.mem_items_iff]
        constructor
        · rintro (⟨other, found, consumed⟩ | ⟨consumed, rfl⟩)
          · have inside : handler < earlier.length := (List.getElem?_eq_some_iff.mp found).1
            exact ⟨other, by rw [List.getElem?_append_left inside, found], consumed⟩
          · exact ⟨consumer, by simp, consumed⟩
        · rintro ⟨other, found, consumed⟩
          by_cases inside : handler < earlier.length
          · rw [List.getElem?_append_left inside] at found
            exact .inl ⟨other, found, consumed⟩
          · have position : handler = earlier.length := by
              have bound := (List.getElem?_eq_some_iff.mp found).1
              simp only [List.length_append, List.length_singleton] at bound
              omega
            subst handler
            simp only [List.getElem?_append_right (Nat.le_refl _), Nat.sub_self,
              List.getElem?_cons_zero, Option.some.injEq] at found
            subst other
            exact .inr ⟨consumed, rfl⟩

/-- An event goes to the handlers of the consumers one of whose predicates holds of it. -/
theorem mem_handlers_ofConsumers {consumers : List χ} {event : ε} {handler : Nat} :
    handler ∈ (ofConsumers consumes consumers).dispatcher.handlers keyOf event ↔
      ∃ consumer, consumers[handler]? = some consumer ∧
        takes consumes keyOf consumer event = true := by
  simp only [Dispatcher.mem_handlers, takes_iff]
  constructor
  · rintro ⟨keyFn, kept⟩
    obtain ⟨consumer, found, consumed⟩ := ((keeps_ofConsumers consumers).2 _ _ _).mp kept
    exact ⟨consumer, found, keyFn, consumed⟩
  · rintro ⟨consumer, found, keyFn, consumed⟩
    exact ⟨keyFn, ((keeps_ofConsumers consumers).2 _ _ _).mpr ⟨consumer, found, consumed⟩⟩

end EventPipeline

end KuryrKubernetes.Handlers

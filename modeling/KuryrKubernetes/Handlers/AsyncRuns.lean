import KuryrKubernetes.Data.Conflation
import KuryrKubernetes.Handlers.Async

/-!
# Related events are handled serially

The entry of a group in `self._queues` is the queue of its only live thread in every
run.  That events are kept needs more.  `_done` drops the queue without regard to
callers still inside `queue.put`, whose events then go to a queue that nobody reads,
and of several callers inside `queue.put` a later one may get in first.  In the runs
where neither happens the events that arrived are conflated: each is handled, gave
way to a later one, or is still with the live thread, and the handler sees them in
the order of their arrival.
-/

namespace KuryrKubernetes.Handlers.Async

open KuryrKubernetes.Transition
open KuryrKubernetes.Data

universe u v

variable {ε : Type u}

/-- The condition on a step: `put` takes effect in the order of the calls, and no
caller is inside `queue.put` when `queue.get` times out. -/
def Orderly (lane : Lane ε) : Action ε → Prop
  | .put _ position => position = 0
  | .timeout i => ∀ thread ∈ lane.threads[i]?, thread.putting = []
  | .call _ | .resume _ => True

namespace Thread

/-- A `put` leaves the thread where it is. -/
theorem place_put {depth position : Nat} {thread later : Thread ε}
    (taken : thread.put depth position = some later) : later.place = thread.place := by
  unfold put at taken
  split at taken
  · cases taken
  · split at taken
    · cases taken
      rfl
    · cases taken

/-- The first of the callers gets in behind what is in the queue. -/
theorem ahead_put {depth : Nat} {thread later : Thread ε}
    (taken : thread.put depth 0 = some later) :
    later.queue ++ later.putting = thread.queue ++ thread.putting := by
  unfold put at taken
  split at taken
  · cases taken
  · rename_i event first
    split at taken
    · cases taken
      cases callers : thread.putting with
      | nil =>
          rw [callers] at first
          cases first
      | cons head rest =>
          rw [callers] at first
          cases first
          simp
    · cases taken

/-- A thread that is resumed is alive and stays alive. -/
theorem alive_resume {thread later : Thread ε} (taken : thread.resume = some later) :
    thread.Alive ∧ later.Alive := by
  rcases thread with ⟨queue, putting, place⟩
  cases place with
  | waiting | fetching =>
      cases queue with
      | nil => cases taken
      | cons event rest =>
          cases taken
          constructor
          · rintro ⟨⟩
          · cases rest <;> rintro ⟨⟩
  | sleeping event =>
      cases taken
      constructor
      · rintro ⟨⟩
      · cases queue <;> rintro ⟨⟩
  | handling event =>
      cases taken
      constructor <;> rintro ⟨⟩
  | finished => cases taken

/-- Up to the next switch point the thread takes an item, drops the one it holds for
the next, hands it to the handler, or comes back from the handler. -/
theorem conflates_resume {arrived handled : List (Arrival ε)} {thread later : Thread ε}
    (taken : thread.resume = some later)
    (conflated : Conflates arrived handled thread.place.held (thread.queue ++ thread.putting)) :
    Conflates arrived (handled ++ later.place.handled.toList) later.place.held
      (later.queue ++ later.putting) := by
  rcases thread with ⟨queue, putting, place⟩
  cases place with
  | waiting =>
      cases queue with
      | nil => cases taken
      | cons event rest =>
          cases taken
          simpa [Place.handled, Place.held] using conflated.take
  | fetching old =>
      cases queue with
      | nil => cases taken
      | cons event rest =>
          cases taken
          have superseded : Conflates arrived handled (some event) (rest ++ putting) :=
            conflated.supersede
          cases rest with
          | nil => simpa [Place.handled, Place.held] using superseded
          | cons next more => simpa [drain, Place.handled, Place.held] using superseded
  | sleeping event =>
      cases taken
      cases queue with
      | nil => simpa [drain, Place.handled, Place.held] using conflated.handle
      | cons next more => simpa [drain, Place.handled, Place.held] using conflated
  | handling event =>
      cases taken
      simpa [Place.handled, Place.held] using conflated
  | finished => cases taken

/-- A thread that times out was alive with an empty queue and nothing in hand. -/
theorem timeout_eq_some {thread later : Thread ε} (taken : thread.timeout = some later) :
    thread.place = .waiting ∧ thread.queue = [] ∧
      later = { thread with place := .finished } := by
  unfold timeout at taken
  split at taken
  · rename_i waiting empty
    cases taken
    exact ⟨waiting, empty, rfl⟩
  · cases taken

end Thread

instance (lane : Lane ε) : (action : Action ε) → Decidable (Orderly lane action)
  | .put _ position => inferInstanceAs (Decidable (position = 0))
  | .timeout i =>
      match found : lane.threads[i]? with
      | none => isTrue (by simp [Orderly, found])
      | some thread => decidable_of_iff (thread.putting.isEmpty = true) (by simp [Orderly, found])
  | .call _ | .resume _ => isTrue trivial

namespace Lane

/-- A live thread of the group. -/
def Alive (lane : Lane ε) (i : Nat) : Prop :=
  ∃ thread, lane.threads[i]? = some thread ∧ thread.Alive

/-- A thread inside the handler. -/
def Handling (lane : Lane ε) (i : Nat) (event : Arrival ε) : Prop :=
  ∃ thread, lane.threads[i]? = some thread ∧ thread.place = .handling event

/-- An event with a live thread: in the queue, taken from it and not yet handled, or
with a caller that is inside `queue.put`. -/
def Pending (lane : Lane ε) (event : Arrival ε) : Prop :=
  ∃ (i : Nat) (thread : Thread ε), lane.threads[i]? = some thread ∧ thread.Alive ∧
    (event ∈ thread.queue ∨ thread.place.held = some event ∨ event ∈ thread.putting)

/-- A later event of the group was taken from the queue. -/
def Superseded (lane : Lane ε) (event : Arrival ε) : Prop :=
  ∃ newer ∈ lane.arrived, event.number < newer.number ∧
    (newer ∈ lane.handled ∨
      ∃ (i : Nat) (thread : Thread ε), lane.threads[i]? = some thread ∧ thread.Alive ∧
        thread.place.held = some newer)

/-- What `Async` promises for one group. -/
structure Serial (lane : Lane ε) : Prop where
  oneThread : ∀ i j, lane.Alive i → lane.Alive j → i = j
  noOverlap : ∀ i j first second,
    lane.Handling i first → lane.Handling j second → i = j ∧ first = second
  inOrder : lane.handled.Sublist lane.arrived ∧
    lane.handled.Pairwise fun first second => first.number < second.number
  kept : ∀ event ∈ lane.arrived,
    event ∈ lane.handled ∨ lane.Superseded event ∨ lane.Pending event
  latest : ∀ event, lane.arrived.getLast? = some event →
    event ∈ lane.handled ∨ lane.Pending event

/-! ## The registered thread -/

/-- The entry of the group is the queue of its live thread. -/
def Registered (lane : Lane ε) : Prop :=
  ∀ i, lane.Alive i ↔ lane.entry = some i

/-- The thread that the entry of the group belongs to. -/
def current (lane : Lane ε) : Option (Thread ε) :=
  lane.entry.bind fun i => lane.threads[i]?

/-- What the live thread holds. -/
def held (lane : Lane ε) : Option (Arrival ε) :=
  lane.current.bind fun thread => thread.place.held

/-- What is ahead of the live thread, in its queue and in front of it. -/
def ahead (lane : Lane ε) : List (Arrival ε) :=
  lane.current.elim [] fun thread => thread.queue ++ thread.putting

theorem Registered.oneThread {lane : Lane ε} (registered : lane.Registered) {i j : Nat}
    (first : lane.Alive i) (second : lane.Alive j) : i = j := by
  have equal : some i = some j :=
    ((registered i).mp first).symm.trans ((registered j).mp second)
  exact Option.some.inj equal

theorem Registered.of_current {lane : Lane ε} (registered : lane.Registered)
    {thread : Thread ε} (here : lane.current = some thread) :
    ∃ i : Nat, lane.threads[i]? = some thread ∧ thread.Alive := by
  obtain ⟨i, entry, found⟩ := Option.bind_eq_some_iff.mp here
  obtain ⟨other, same, alive⟩ := (registered i).mpr entry
  rw [found] at same
  cases same
  exact ⟨i, found, alive⟩

theorem current_of_entry {lane : Lane ε} {i : Nat} {thread : Thread ε}
    (entry : lane.entry = some i) (found : lane.threads[i]? = some thread) :
    lane.current = some thread := by
  rw [current, entry]
  exact found

theorem Registered.current_eq {lane : Lane ε} (registered : lane.Registered) {i : Nat}
    {thread : Thread ε} (found : lane.threads[i]? = some thread) (alive : thread.Alive) :
    lane.current = some thread :=
  current_of_entry ((registered i).mp ⟨thread, found, alive⟩) found

theorem getElem?_setThread {lane : Lane ε} {i : Nat} {old : Thread ε}
    (found : lane.threads[i]? = some old) (thread : Thread ε) (j : Nat) :
    (lane.setThread i thread).threads[j]? =
      if j = i then some thread else lane.threads[j]? := by
  have inside : i < lane.threads.length := (List.getElem?_eq_some_iff.mp found).1
  rw [setThread, List.getElem?_set]
  by_cases here : j = i
  · simp [here, inside]
  · simp [here, Ne.symm here]

/-- Changing a thread keeps the registration where it keeps the thread alive or
dead. -/
theorem Registered.setThread {lane : Lane ε} (registered : lane.Registered) {i : Nat}
    {old thread : Thread ε} (found : lane.threads[i]? = some old)
    (same : thread.Alive ↔ old.Alive) : (lane.setThread i thread).Registered := by
  intro j
  rw [show (lane.setThread i thread).entry = lane.entry from rfl, ← registered j]
  unfold Alive
  rw [getElem?_setThread found]
  by_cases here : j = i
  · subst j
    simp [found, same]
  · simp [here]

/-- A thread other than the current one may change unseen. -/
theorem current_setThread_of_ne {lane : Lane ε} {i : Nat} (thread : Thread ε)
    (elsewhere : lane.entry ≠ some i) : (lane.setThread i thread).current = lane.current := by
  unfold current
  rw [show (lane.setThread i thread).entry = lane.entry from rfl]
  cases entry : lane.entry with
  | none => rfl
  | some j =>
      have different : i ≠ j := by
        rintro rfl
        exact elsewhere entry
      simp [Lane.setThread, different]

theorem current_setThread {lane : Lane ε} {i : Nat} {old : Thread ε} (thread : Thread ε)
    (entry : lane.entry = some i) (found : lane.threads[i]? = some old) :
    (lane.setThread i thread).current = some thread := by
  have kept : (lane.setThread i thread).entry = some i := entry
  apply current_of_entry kept
  rw [getElem?_setThread found]
  simp

/-! ## Steps -/

theorem Registered.call {lane after : Lane ε} {event : ε} (registered : lane.Registered)
    (taken : lane.call event = some after) : after.Registered := by
  unfold Lane.call at taken
  split at taken
  · rename_i noEntry
    cases taken
    intro i
    have dead : ¬ lane.Alive i := by
      rw [registered i, noEntry]
      rintro ⟨⟩
    unfold Alive at dead ⊢
    rcases Nat.lt_trichotomy i lane.threads.length with before | here | beyond
    · rw [List.getElem?_append_left before]
      simp only [dead, false_iff, Option.some.injEq]
      omega
    · subst i
      simp [Thread.Alive]
    · rw [List.getElem?_append_right (by omega), List.getElem?_eq_none (by simp; omega)]
      simp only [reduceCtorEq, false_and, exists_false, Option.some.injEq, false_iff]
      omega
  · rename_i i _
    obtain ⟨thread, found, rfl⟩ := Option.map_eq_some_iff.mp taken
    have noted : Registered { lane with arrived := lane.arrived ++ [⟨lane.arrived.length, event⟩] } :=
      registered
    exact noted.setThread found Iff.rfl

theorem Registered.timeout {lane after : Lane ε} {i : Nat} (registered : lane.Registered)
    (taken : lane.timeout i = some after) : after.Registered := by
  obtain ⟨thread, found, taken⟩ := Option.bind_eq_some_iff.mp taken
  obtain ⟨later, stopped, same⟩ := Option.bind_eq_some_iff.mp taken
  obtain ⟨waiting, _, rfl⟩ := Thread.timeout_eq_some stopped
  cases same
  have alive : thread.Alive := by
    rw [Thread.Alive, waiting]
    rintro ⟨⟩
  intro j
  simp only [reduceCtorEq, iff_false]
  rintro ⟨other, at_j, running⟩
  have placed := (getElem?_setThread found { thread with place := .finished } j).symm.trans at_j
  by_cases here : j = i
  · rw [if_pos here] at placed
    cases placed
    exact running rfl
  · rw [if_neg here] at placed
    exact here (registered.oneThread ⟨other, placed, running⟩ ⟨thread, found, alive⟩)

theorem Registered.resume {lane after : Lane ε} {i : Nat} (registered : lane.Registered)
    (taken : lane.resume i = some after) : after.Registered := by
  obtain ⟨thread, found, taken⟩ := Option.bind_eq_some_iff.mp taken
  obtain ⟨later, resumed, same⟩ := Option.bind_eq_some_iff.mp taken
  cases same
  have alive := Thread.alive_resume resumed
  exact registered.setThread found ⟨fun _ => alive.1, fun _ => alive.2⟩

theorem Registered.put {lane : Lane ε} {depth position i : Nat} {thread later : Thread ε}
    (registered : lane.Registered) (found : lane.threads[i]? = some thread)
    (put : thread.put depth position = some later) : (lane.setThread i later).Registered := by
  apply registered.setThread found
  rw [Thread.Alive, Thread.Alive, Thread.place_put put]

/-- The registration is kept by every step. -/
theorem registered_step (depth : Nat) :
    PreservedBy (Lane.step depth) (fun _ _ => True) (@Registered ε) := by
  intro lane action after _ registered taken
  cases action with
  | call event => exact registered.call taken
  | put i position =>
      obtain ⟨thread, found, taken⟩ := Option.bind_eq_some_iff.mp taken
      obtain ⟨later, put, same⟩ := Option.bind_eq_some_iff.mp taken
      cases same
      exact registered.put found put
  | resume i => exact registered.resume taken
  | timeout i => exact registered.timeout taken

/-- Besides the registration: what arrived is conflated, and numbered. -/
structure Sound (lane : Lane ε) : Prop where
  registered : lane.Registered
  conflated : Conflates lane.arrived lane.handled lane.held lane.ahead
  increasing : lane.arrived.Pairwise fun first second => first.number < second.number
  bounded : ∀ event ∈ lane.arrived, event.number < lane.arrived.length

theorem sound_start : Sound ({} : Lane ε) where
  registered := by
    intro i
    simp [Alive]
  conflated := Conflates.nil
  increasing := List.Pairwise.nil
  bounded := by simp

/-- What is with a current thread. -/
theorem held_eq {lane : Lane ε} {thread : Thread ε} (here : lane.current = some thread) :
    lane.held = thread.place.held := by
  rw [held, here]
  rfl

theorem ahead_eq {lane : Lane ε} {thread : Thread ε} (here : lane.current = some thread) :
    lane.ahead = thread.queue ++ thread.putting := by
  rw [ahead, here]
  rfl

theorem held_of_none {lane : Lane ε} (idle : lane.current = none) : lane.held = none := by
  rw [held, idle]
  rfl

theorem ahead_of_none {lane : Lane ε} (idle : lane.current = none) : lane.ahead = [] := by
  rw [ahead, idle]
  rfl

theorem Sound.call {lane after : Lane ε} {event : ε} (sound : lane.Sound)
    (taken : lane.call event = some after) : after.Sound := by
  have registered := sound.registered.call taken
  have arrived : after.arrived = lane.arrived ++ [⟨lane.arrived.length, event⟩] ∧
      after.handled = lane.handled ∧ after.held = lane.held ∧
      after.ahead = lane.ahead ++ [⟨lane.arrived.length, event⟩] := by
    unfold Lane.call at taken
    split at taken
    · rename_i noEntry
      cases taken
      have idle : lane.current = none := by
        rw [current, noEntry]
        rfl
      have started : Lane.current
          { lane with
            entry := some lane.threads.length
            threads := lane.threads ++ [{ putting := [⟨lane.arrived.length, event⟩] }]
            arrived := lane.arrived ++ [⟨lane.arrived.length, event⟩] } =
          some { putting := [⟨lane.arrived.length, event⟩] } :=
        current_of_entry rfl (by simp)
      rw [held_of_none idle, ahead_of_none idle]
      exact ⟨rfl, rfl, held_eq started, ahead_eq started⟩
    · rename_i i entry
      obtain ⟨thread, found, rfl⟩ := Option.map_eq_some_iff.mp taken
      have here := current_of_entry entry found
      let arrival : Arrival ε := ⟨lane.arrived.length, event⟩
      let noted : Lane ε := { lane with arrived := lane.arrived ++ [arrival] }
      have changed :
          (noted.setThread i { thread with putting := thread.putting ++ [arrival] }).current =
            some { thread with putting := thread.putting ++ [arrival] } :=
        current_setThread _ entry found
      have holding := held_eq changed
      have behind := ahead_eq changed
      rw [← List.append_assoc] at behind
      rw [held_eq here, ahead_eq here]
      exact ⟨rfl, rfl, holding, behind⟩
  obtain ⟨arrived, handled, held, ahead⟩ := arrived
  constructor
  · exact registered
  · rw [arrived, handled, held, ahead]
    exact sound.conflated.arrive _
  · rw [arrived, List.pairwise_append]
    refine ⟨sound.increasing, List.pairwise_singleton _ _, ?_⟩
    intro first earlier second same
    cases List.mem_singleton.mp same
    exact sound.bounded first earlier
  · intro other came
    rw [arrived, List.length_append, List.length_singleton]
    rw [arrived, List.mem_append] at came
    rcases came with earlier | same
    · have below := sound.bounded other earlier
      omega
    · cases List.mem_singleton.mp same
      exact Nat.lt_succ_self lane.arrived.length

theorem Sound.put {lane : Lane ε} {depth i : Nat} {thread later : Thread ε}
    (sound : lane.Sound) (found : lane.threads[i]? = some thread)
    (put : thread.put depth 0 = some later) : (lane.setThread i later).Sound := by
  have registered := sound.registered.put found put
  have same : (lane.setThread i later).held = lane.held ∧
      (lane.setThread i later).ahead = lane.ahead := by
    by_cases entry : lane.entry = some i
    · have here := current_of_entry entry found
      have changed := current_setThread later entry found
      rw [held_eq here, ahead_eq here, held_eq changed, ahead_eq changed,
        Thread.place_put put, Thread.ahead_put put]
      exact ⟨rfl, rfl⟩
    · unfold held ahead
      rw [current_setThread_of_ne later entry]
      exact ⟨rfl, rfl⟩
  constructor
  · exact registered
  · rw [same.1, same.2]
    exact sound.conflated
  · exact sound.increasing
  · exact sound.bounded

theorem Sound.resume {lane after : Lane ε} {i : Nat} (sound : lane.Sound)
    (taken : lane.resume i = some after) : after.Sound := by
  have registered := sound.registered.resume taken
  obtain ⟨thread, found, taken⟩ := Option.bind_eq_some_iff.mp taken
  obtain ⟨later, resumed, same⟩ := Option.bind_eq_some_iff.mp taken
  cases same
  have alive := (Thread.alive_resume resumed).1
  have entry := (sound.registered i).mp ⟨thread, found, alive⟩
  have here := current_of_entry entry found
  have changed := current_setThread later entry found
  have conflated := sound.conflated
  rw [held_eq here, ahead_eq here] at conflated
  have resumes := Thread.conflates_resume resumed conflated
  rw [← held_eq changed, ← ahead_eq changed] at resumes
  exact ⟨registered, resumes, sound.increasing, sound.bounded⟩

theorem Sound.timeout {lane after : Lane ε} {i : Nat} (sound : lane.Sound)
    (orderly : Orderly lane (.timeout i)) (taken : lane.timeout i = some after) :
    after.Sound := by
  have registered := sound.registered.timeout taken
  obtain ⟨thread, found, taken⟩ := Option.bind_eq_some_iff.mp taken
  obtain ⟨later, stopped, same⟩ := Option.bind_eq_some_iff.mp taken
  obtain ⟨waiting, empty, rfl⟩ := Thread.timeout_eq_some stopped
  cases same
  have alive : thread.Alive := by
    rw [Thread.Alive, waiting]
    rintro ⟨⟩
  have here := sound.registered.current_eq found alive
  have nobody : thread.putting = [] := orderly thread found
  have conflated := sound.conflated
  rw [held_eq here, ahead_eq here, waiting, empty, nobody] at conflated
  exact ⟨registered, conflated, sound.increasing, sound.bounded⟩

/-- Every orderly step keeps the accounts of a group. -/
theorem sound_step (depth : Nat) :
    PreservedBy (Lane.step depth) Orderly (@Sound ε) := by
  intro lane action after orderly sound taken
  cases action with
  | call event => exact sound.call taken
  | put i position =>
      obtain ⟨thread, found, taken⟩ := Option.bind_eq_some_iff.mp taken
      obtain ⟨later, put, same⟩ := Option.bind_eq_some_iff.mp taken
      cases same
      have first : position = 0 := orderly
      subst position
      exact sound.put found put
  | resume i => exact sound.resume taken
  | timeout i => exact sound.timeout orderly taken

/-! ## What the accounts give -/

theorem Registered.noOverlap {lane : Lane ε} (registered : lane.Registered) {i j : Nat}
    {first second : Arrival ε} (one : lane.Handling i first) (other : lane.Handling j second) :
    i = j ∧ first = second := by
  obtain ⟨thread, found, handling⟩ := one
  obtain ⟨another, foundToo, handlingToo⟩ := other
  have alive : lane.Alive i := ⟨thread, found, by rw [Thread.Alive, handling]; rintro ⟨⟩⟩
  have aliveToo : lane.Alive j :=
    ⟨another, foundToo, by rw [Thread.Alive, handlingToo]; rintro ⟨⟩⟩
  have same := registered.oneThread alive aliveToo
  subst j
  rw [found] at foundToo
  cases foundToo
  rw [handling] at handlingToo
  cases handlingToo
  exact ⟨rfl, rfl⟩

theorem Registered.pending_of_held {lane : Lane ε} (registered : lane.Registered)
    {event : Arrival ε} (holding : lane.held = some event) :
    ∃ (i : Nat) (thread : Thread ε), lane.threads[i]? = some thread ∧ thread.Alive ∧
      thread.place.held = some event := by
  obtain ⟨thread, here, inHand⟩ := Option.bind_eq_some_iff.mp holding
  obtain ⟨i, found, alive⟩ := registered.of_current here
  exact ⟨i, thread, found, alive, inHand⟩

theorem Registered.pending_of_ahead {lane : Lane ε} (registered : lane.Registered)
    {event : Arrival ε} (coming : event ∈ lane.ahead) : lane.Pending event := by
  cases here : lane.current with
  | none =>
      rw [ahead_of_none here] at coming
      cases coming
  | some thread =>
      rw [ahead_eq here] at coming
      obtain ⟨i, found, alive⟩ := registered.of_current here
      rcases List.mem_append.mp coming with queued | entering
      · exact ⟨i, thread, found, alive, .inl queued⟩
      · exact ⟨i, thread, found, alive, .inr (.inr entering)⟩

theorem Sound.serial {lane : Lane ε} (sound : lane.Sound) : lane.Serial where
  oneThread _ _ := sound.registered.oneThread
  noOverlap _ _ _ _ := sound.registered.noOverlap
  inOrder := ⟨sound.conflated.sublist, sound.increasing.sublist sound.conflated.sublist⟩
  kept event came := by
    rcases sound.conflated.covered sound.increasing came with
      done | inHand | coming | ⟨newer, cameToo, later, dealt⟩
    · exact .inl done
    · obtain ⟨i, thread, found, alive, holds⟩ := sound.registered.pending_of_held inHand
      exact .inr (.inr ⟨i, thread, found, alive, .inr (.inl holds)⟩)
    · exact .inr (.inr (sound.registered.pending_of_ahead coming))
    · right
      left
      rcases dealt with done | inHand
      · exact ⟨newer, cameToo, later, .inl done⟩
      · exact ⟨newer, cameToo, later, .inr (sound.registered.pending_of_held inHand)⟩
  latest event last := by
    rcases sound.conflated.latest last with done | inHand | coming
    · exact .inl done
    · obtain ⟨i, thread, found, alive, holds⟩ := sound.registered.pending_of_held inHand
      exact .inr ⟨i, thread, found, alive, .inr (.inl holds)⟩
    · exact .inr (sound.registered.pending_of_ahead coming)

end Lane

/-! ## Runs -/

/-- In every run, whatever the callers do, a group has one thread at most and the
handler is never inside two events of a group. -/
theorem one_thread_of_run {γ : Type v} [DecidableEq γ] (depth : Nat) (groupBy : ε → γ)
    {labels : List (γ × Action ε)} {lanes : γ → Lane ε}
    (executed : run (step depth groupBy) labels start = some lanes) (group : γ) :
    (lanes group).Registered := by
  have guarded : GuardedRun (step depth groupBy) (AtKey fun _ _ => True) start labels lanes :=
    (guardedRun_of_run executed).mono fun _ _ _ => trivial
  exact guarded.invariant_keyed (Lane.registered_step depth) (fun _ => Lane.sound_start.registered)
    group

/-- In every orderly run the events of a group are handled one at a time in the order
of their arrival, and an event is only passed over for a later one. -/
theorem async_serial {γ : Type v} [DecidableEq γ] (depth : Nat) (groupBy : ε → γ)
    {labels : List (γ × Action ε)} {lanes : γ → Lane ε}
    (orderly : GuardedRun (step depth groupBy) (AtKey Orderly) start labels lanes) (group : γ) :
    (lanes group).Serial :=
  (orderly.invariant_keyed (Lane.sound_step depth) (fun _ => Lane.sound_start) group).serial

/-- An event that comes while the thread sleeps takes the place of the one it holds. -/
theorem async_serial_of_two_events :
    ∃ lanes : Nat → Lane Nat,
      (lanes 0).Serial ∧ (lanes 0).arrived = [⟨0, 6⟩, ⟨1, 8⟩] ∧ (lanes 0).handled = [⟨1, 8⟩] := by
  let labels : List (Action Nat) :=
    [.call 6, .put 0 0, .resume 0, .call 8, .put 0 0, .resume 0, .resume 0, .resume 0,
      .resume 0, .timeout 0]
  let lane : Lane Nat :=
    { threads := [{ place := .finished }], arrived := [⟨0, 6⟩, ⟨1, 8⟩], handled := [⟨1, 8⟩] }
  have orderly : GuardedRun (Lane.step 100) Orderly {} labels lane :=
    guardedRun_of_runIf (by decide)
  have lifted : GuardedRun (step 100 (· % 2)) (AtKey Orderly) start (labels.map (0, ·))
      (Function.update start 0 lane) :=
    orderly.keyed (by decide) start rfl
  exact ⟨_, async_serial 100 (· % 2) lifted 0, rfl, rfl⟩

/-- A caller waits for room in a full queue.  The thread empties the queue and times
out before the caller is scheduled, and the last event is lost. -/
theorem async_not_always_serial :
    ∃ (labels : List (Unit × Action Nat)) (lanes : Unit → Lane Nat),
      run (step 1 fun _ => ()) labels start = some lanes ∧ ¬ (lanes ()).Serial := by
  let labels : List (Action Nat) :=
    [.call 6, .put 0 0, .call 8, .resume 0, .resume 0, .resume 0, .timeout 0, .put 0 0]
  let lane : Lane Nat :=
    { threads := [{ queue := [⟨1, 8⟩], place := .finished }]
      arrived := [⟨0, 6⟩, ⟨1, 8⟩]
      handled := [⟨0, 6⟩] }
  have executed : run (Lane.step 1) labels {} = some lane := by decide
  refine ⟨labels.map ((), ·), Function.update start () lane,
    run_keyed start executed (by decide), ?_⟩
  intro serial
  rcases serial.latest ⟨1, 8⟩ rfl with done | ⟨i, thread, found, alive, _⟩
  · have absent : (⟨1, 8⟩ : Arrival Nat) ∉ lane.handled := by decide
    exact absent done
  · have stopped : ∀ other ∈ lane.threads, other.place = .finished := by decide
    exact alive (stopped thread (List.mem_of_getElem? found))

end KuryrKubernetes.Handlers.Async

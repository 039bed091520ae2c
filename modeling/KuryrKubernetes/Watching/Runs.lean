import KuryrKubernetes.Watching.Tidy

/-!
# Stopping and exiting

Killing the thread of a loop that has begun runs `_graceful_watch_exit`, which takes
the loss of the last entry for the end of all watching and exits the process, also when
the loop was killed on behalf of `stop` or `remove`.  As long as a loop that leaves on
request is never the last one, the process exits only when the deadline of the last
loop is exceeded.

`start` and `add` go by the entries of `_watching`.  A `stop` that waits after a kill
may leave the entry of a dead thread behind until it goes on, and it has yet to come to
the remaining paths.  If no path is started while a call has such business with it,
every resource has a loop after `start`.
-/

namespace KuryrKubernetes.Watching

open KuryrKubernetes.Data
open KuryrKubernetes.Transition

/-- The condition on one step of a thread of `_watch(path)`: a handler that returns to
a loop that is no longer wanted does not return to the last one, and no handler raises
in such a loop. -/
def carefulLoop (watcher : Watcher) (path : String) : Place → Action → Bool
  | .handling, .handled => watcher.wanted path || watcher.otherLeft path
  | .handling, .raises => watcher.wanted path
  | _, _ => true

/-- The condition on one step: no path is started that a waiting call is engaged with,
and what leaves on request is not the last loop. -/
def careful (watcher : Watcher) : Label → Bool
  | .add path => !(watcher.running && watcher.engaged path)
  | .start => watcher.resources.all fun path => !watcher.engaged path
  | .stop => watcher.sparesLast watcher.watching.keys
  | .remove path => watcher.sparesLast [path]
  | .resume call => (watcher.forget call.killed).sparesLast call.rest
  | .loop thread action =>
      (watcher.loops[thread]?).all fun loop =>
        carefulLoop watcher loop.path loop.place action

/-- Every path is tidy, and the process has exited only with its last loop, at a
deadline. -/
structure Sound (watcher : Watcher) : Prop where
  tidy : watcher.TidyDuring []
  exits : ∀ cause, watcher.exited = some cause →
    cause = .deadlineExceeded ∧ ∀ loop ∈ watcher.loops, loop.place = .finished

namespace Watcher

variable {watcher after : Watcher} {path : String} {thread : Nat} {place : Place}

/-- A process that goes on has not exited. -/
theorem sound_of_running (tidy : watcher.TidyDuring []) (running : watcher.exited = none) :
    Sound watcher where
  tidy := tidy
  exits := by
    intro cause exited
    cases running.symm.trans exited

/-! ## Operations -/

theorem sound_add (tidy : watcher.TidyDuring []) (running : watcher.exited = none)
    (allowed : careful watcher (.add path) = true) : Sound (watcher.add path) := by
  have listed : ({ watcher with
      resources := watcher.resources.insert path } : Watcher).TidyDuring [] := by
    intro other
    apply (tidy other).frame
    · rfl
    · rfl
    · exact fun _ _ => Iff.rfl
    · intro asked
      apply asked.imp_left
      simp only [wanted, Bool.and_eq_true, List.contains_iff_mem]
      exact fun wanted => ⟨wanted.1, List.mem_insert_of_mem wanted.2⟩
    · exact .inr
    · rfl
  rw [add]
  split
  · rename_i runs
    have free : watcher.engaged path = false := by
      have spared : watcher.running = true := runs
      simpa [careful, spared] using allowed
    apply sound_of_running
    · refine (tidy_ensureWatch listed ?_ free).1
      rw [wanted, runs]
      simp
    · exact (ensureWatch_keeps _ path).2.2.2.1.trans running
  · exact sound_of_running listed running

theorem sound_start (tidy : watcher.TidyDuring []) (running : watcher.exited = none)
    (allowed : careful watcher .start = true) :
    Sound watcher.start ∧ ∀ path ∈ watcher.start.resources, watcher.start.HasLoop path := by
  have begun : ({ watcher with running := true } : Watcher).TidyDuring [] := by
    intro other
    apply (tidy other).frame
    · rfl
    · rfl
    · exact fun _ _ => Iff.rfl
    · intro asked
      apply asked.imp_left
      simp only [wanted, Bool.and_eq_true]
      exact fun wanted => ⟨trivial, wanted.2⟩
    · exact .inr
    · rfl
  have free : ∀ path ∈ watcher.resources, watcher.engaged path = false := by
    simpa [careful] using allowed
  obtain ⟨started, sameExited, sameResources, loops⟩ :=
    @tidy_ensureWatches _ watcher.resources begun (by simp [wanted]) free
  constructor
  · exact sound_of_running started (sameExited.trans running)
  · intro path listed
    exact loops path (.inl (sameResources ▸ listed))

theorem sound_stop (tidy : watcher.TidyDuring []) (running : watcher.exited = none)
    (allowed : careful watcher .stop = true) : Sound watcher.stop := by
  have stopping : ({ watcher with running := false } : Watcher).TidyDuring
      watcher.watching.keys := by
    intro other
    cases tidy other with
    | absent unlisted finished => exact .absent unlisted finished
    | live thread place listed stands unfinished alone flagged _ untouched =>
        have inKeys := Dict.mem_keys_iff.mpr (Dict.mem_iff_exists_get?.mpr ⟨thread, listed⟩)
        exact .live thread place listed stands unfinished alone flagged
          (.inr (.inr (.inr inKeys))) untouched
    | dead thread listed stands finished flagged due =>
        have inKeys := Dict.mem_keys_iff.mpr (Dict.mem_iff_exists_get?.mpr ⟨thread, listed⟩)
        exact .dead thread listed stands finished flagged (.inr (.inr inKeys))
  have spares : ({ watcher with running := false } : Watcher).sparesLast
      watcher.watching.keys = true := by
    apply Eq.trans _ allowed
    apply sparesLast_congr
    · rfl
    · rfl
    · rfl
  obtain ⟨after, exited⟩ := tidy_stopWatches stopping spares running
  exact sound_of_running after exited

theorem sound_remove (tidy : watcher.TidyDuring []) (running : watcher.exited = none)
    (allowed : careful watcher (.remove path) = true) : Sound (watcher.remove path) := by
  have removing : ({ watcher with
      resources := watcher.resources.filter (· != path) } : Watcher).TidyDuring [path] := by
    intro other
    by_cases same : other = path
    · subst other
      cases tidy path with
      | absent unlisted finished => exact .absent unlisted finished
      | live thread place listed stands unfinished alone flagged _ untouched =>
          exact .live thread place listed stands unfinished alone flagged
            (.inr (.inr (.inr (List.mem_singleton_self path)))) untouched
      | dead thread listed stands finished flagged due =>
          exact .dead thread listed stands finished flagged
            (.inr (.inr (List.mem_singleton_self path)))
    · apply (tidy other).frame
      · rfl
      · rfl
      · exact fun _ _ => Iff.rfl
      · rintro (asked | asked | none)
        · left
          simpa [wanted, same] using asked
        · exact .inr (.inl asked)
        · cases none
      · rintro (asked | none)
        · exact .inr (.inl asked)
        · cases none
      · rfl
  rw [remove]
  split
  · have spares := (sparesLast_congr rfl rfl rfl [path]).trans allowed
    obtain ⟨after, exited⟩ := tidy_stopWatches removing spares running
    exact sound_of_running after exited
  · rename_i unlisted
    apply sound_of_running
    · apply tidy_passed removing
      exact fun _ => Dict.not_mem_iff_get?_eq_none.mp unlisted
    · exact running

theorem sound_resume {call : Call} (tidy : watcher.TidyDuring [])
    (running : watcher.exited = none) (waits : call ∈ watcher.calls)
    (allowed : careful watcher (.resume call) = true) : Sound (watcher.resume call) := by
  have others (goal : Call → Prop) (holds : ∃ waiting ∈ watcher.calls, goal waiting) :
      (∃ waiting ∈ watcher.calls.erase call, goal waiting) ∨ goal call := by
    obtain ⟨waiting, member, given⟩ := holds
    by_cases same : waiting = call
    · exact .inr (same ▸ given)
    · exact .inl ⟨waiting, (List.mem_erase_of_ne same).mpr member, given⟩
  have resumed : ({ watcher with calls := watcher.calls.erase call }.forget
      call.killed : Watcher).TidyDuring call.rest := by
    intro other
    by_cases same : other = call.killed
    · subst other
      have finished : watcher.Finished call.killed fun _ => False := by
        cases tidy call.killed with
        | absent _ finished => exact finished
        | live _ _ _ _ _ _ _ _ untouched => exact absurd ⟨call, waits, rfl⟩ untouched
        | dead _ _ _ finished => exact finished
      exact .absent (Dict.get?_erase_self _ _) finished
    · apply (tidy other).frame
      · exact (Dict.get?_erase ..).trans (if_neg same)
      · exact (Dict.get?_erase ..).trans (if_neg same)
      · exact fun _ _ => Iff.rfl
      · rintro (asked | awaited | none)
        · exact .inl asked
        · exact .inr (others (other ∈ ·.rest) awaited)
        · cases none
      · rintro (awaited | none)
        · exact .inr (others (other ∈ ·.rest) awaited)
        · cases none
      · constructor
        · rintro ⟨waiting, member, killed⟩
          exact ⟨waiting, List.mem_of_mem_erase member, killed⟩
        · intro killed
          rcases others (·.killed = other) killed with still | itself
          · exact still
          · exact absurd itself.symm same
  have spares : ({ watcher with calls := watcher.calls.erase call }.forget
      call.killed : Watcher).sparesLast call.rest = true := by
    apply Eq.trans _ allowed
    apply sparesLast_congr
    · rfl
    · rfl
    · rfl
  obtain ⟨after, exited⟩ := tidy_stopWatches resumed spares running
  exact sound_of_running after exited

/-! ## Loops -/

/-- A thread runs, and whatever becomes of its own path, the others are left alone. -/
theorem tidy_of_own (target : Place) (tidy : watcher.TidyDuring [])
    (stands : watcher.loops[thread]? = some ⟨path, place⟩)
    (sameWatching : after.watching = watcher.watching)
    (sameIdle : ∀ other, other ≠ path → after.idle.get? other = watcher.idle.get? other)
    (moves : after.loops = (watcher.moved thread target).loops)
    (sameWanted : ∀ other, after.wanted other = watcher.wanted other)
    (sameCalls : after.calls = watcher.calls)
    (own : after.Tidy path ((∃ call ∈ watcher.calls, path ∈ call.rest) ∨ path ∈ [])
      (∃ call ∈ watcher.calls, call.killed = path)) : after.TidyDuring [] := by
  intro other
  rw [sameCalls]
  by_cases same : other = path
  · exact same ▸ own
  · apply (tidy other).frame
    · rw [sameWatching]
    · exact sameIdle other same
    · intro asked found
      rw [moves]
      exact sameLoops_moved stands same target asked found
    · rw [sameWanted]
      exact id
    · exact .inr
    · rfl

/-- A thread that goes on to `target` with the flag of its path set to match. -/
theorem tidy_goes (target : Place) (tidy : watcher.TidyDuring [])
    (stands : watcher.loops[thread]? = some ⟨path, place⟩) (unfinished : place ≠ .finished)
    (goesOn : target ≠ .finished)
    (asked : target = .handling ∨ watcher.wanted path = true ∨
      ∃ call ∈ watcher.calls, path ∈ call.rest) :
    ((watcher.marked path (target != .handling)).moved thread target).TidyDuring [] := by
  obtain ⟨listed, alone, _, _, untouched⟩ := (tidy path).live_of_unfinished stands unfinished
  apply tidy_of_own target tidy stands
  · rfl
  · intro other apart
    exact Dict.get?_set_of_ne _ _ apart
  · rfl
  · exact fun _ => rfl
  · rfl
  · apply Tidy.live thread target
    · exact listed
    · rw [moved_loops, if_pos rfl]
      exact congrArg _ stands
    · exact goesOn
    · exact finished_moved stands alone target (.inl rfl)
    · exact Dict.get?_set_self _ _ _
    · rcases asked with handling | wanted | awaited
      · exact .inl handling
      · exact .inr (.inl wanted)
      · exact .inr (.inr (.inl awaited))
    · exact untouched

/-- A thread that finds its path no longer wanted finishes and leaves the entries for
the call that has yet to come to the path. -/
theorem tidy_ends (tidy : watcher.TidyDuring [])
    (stands : watcher.loops[thread]? = some ⟨path, place⟩) (unfinished : place ≠ .finished)
    (awaited : ∃ call ∈ watcher.calls, path ∈ call.rest) :
    ((watcher.marked path true).moved thread .finished).TidyDuring [] := by
  obtain ⟨listed, alone, _⟩ := (tidy path).live_of_unfinished stands unfinished
  apply tidy_of_own .finished tidy stands
  · rfl
  · intro other apart
    exact Dict.get?_set_of_ne _ _ apart
  · rfl
  · exact fun _ => rfl
  · rfl
  · apply Tidy.dead thread
    · exact listed
    · rw [moved_loops, if_pos rfl]
      exact congrArg _ stands
    · exact finished_moved stands alone .finished (.inr rfl)
    · exact Dict.get?_set_self _ _ _
    · exact .inr (.inl awaited)

/-- Setting a flag to what it is changes nothing. -/
theorem marked_self {flag : Bool} (flagged : watcher.idle.get? path = some flag) :
    watcher.marked path flag = watcher := by
  rw [marked, Dict.set_eq_self flagged]

/-- A thread comes to the head of its loop. -/
theorem tidy_nextRound (entered : Place) (tidy : watcher.TidyDuring [])
    (stands : watcher.loops[thread]? = some ⟨path, place⟩) (unfinished : place ≠ .finished)
    (goesOn : entered ≠ .finished) (idling : entered ≠ .handling)
    (asked : watcher.wanted path = true ∨ ∃ call ∈ watcher.calls, path ∈ call.rest) :
    ((watcher.marked path true).nextRound thread path entered).TidyDuring [] := by
  rw [nextRound]
  by_cases wanted : watcher.wanted path = true
  · rw [show (watcher.marked path true).wanted path = true from wanted, if_pos rfl,
      ← bne_iff_ne.mpr idling]
    exact tidy_goes entered tidy stands unfinished goesOn (.inr (.inl wanted))
  · rw [Bool.not_eq_true] at wanted
    rw [show (watcher.marked path true).wanted path = false from wanted,
      if_neg Bool.false_ne_true]
    apply tidy_ends tidy stands unfinished
    exact asked.resolve_left (by rw [wanted]; exact Bool.false_ne_true)

/-- The loop of a path leaves, with any flag it has set before. -/
theorem tidy_leaves (flag : Bool) (tidy : watcher.TidyDuring [])
    (stands : watcher.loops[thread]? = some ⟨path, place⟩) (unfinished : place ≠ .finished) :
    (((watcher.marked path flag).moved thread .finished).forget path).TidyDuring [] := by
  intro other
  by_cases same : other = path
  · subst other
    have alone := ((tidy path).live_of_unfinished stands unfinished).2.1
    apply Tidy.absent
    · exact Dict.get?_erase_self _ _
    · exact finished_moved stands alone .finished (.inr rfl)
  · apply (tidy other).frame
    · exact (Dict.get?_erase ..).trans (if_neg same)
    · exact ((Dict.get?_erase ..).trans (if_neg same)).trans (Dict.get?_set_of_ne _ _ same)
    · exact sameLoops_moved stands same .finished
    · exact id
    · exact .inr
    · rfl

/-- A handler returns, and the loop goes on or leaves without being the last one. -/
theorem sound_handled (tidy : watcher.TidyDuring []) (running : watcher.exited = none)
    (stands : watcher.loops[thread]? = some ⟨path, .handling⟩)
    (allowed : (watcher.wanted path || watcher.otherLeft path) = true) :
    Sound (watcher.handled thread path) := by
  have idling : (watcher.marked path true).wanted path = watcher.wanted path := rfl
  rw [handled]
  simp only [idling]
  by_cases wanted : watcher.wanted path = true
  · rw [if_pos wanted]
    apply sound_of_running
    · apply tidy_goes .watching tidy stands
      · simp
      · simp
      · exact .inr (.inl wanted)
    · exact running
  · rw [if_neg wanted]
    obtain ⟨other, apart, inWatching | inIdle⟩ :=
      otherLeft_iff.mp ((Bool.or_eq_true_iff.mp allowed).resolve_left wanted)
    · have left : ((watcher.marked path true).moved thread .finished).otherLeft path = true :=
        otherLeft_iff.mpr ⟨other, apart, .inl inWatching⟩
      rw [gracefulWatchExit_of_otherLeft left]
      exact sound_of_running (tidy_leaves true tidy stands (by simp)) running
    · have left : ((watcher.marked path true).moved thread .finished).otherLeft path = true :=
        otherLeft_iff.mpr ⟨other, apart, .inr (Dict.mem_set.mpr (.inr inIdle))⟩
      rw [gracefulWatchExit_of_otherLeft left]
      exact sound_of_running (tidy_leaves true tidy stands (by simp)) running

/-- Without entries no thread is left. -/
theorem finished_of_empty (tidy : watcher.TidyDuring []) (unwatched : watcher.watching = ∅) :
    ∀ loop ∈ watcher.loops, loop.place = .finished := by
  rintro ⟨path, place⟩ member
  obtain ⟨thread, stands⟩ := List.getElem?_of_mem member
  by_contra unfinished
  have listed := ((tidy path).live_of_unfinished stands unfinished).1
  rw [unwatched] at listed
  cases listed

/-- The deadline of a loop is exceeded; if the process exits, no loop is left. -/
theorem sound_deadlineExceeded (tidy : watcher.TidyDuring []) (running : watcher.exited = none)
    (stands : watcher.loops[thread]? = some ⟨path, .sleeping⟩) :
    Sound (watcher.deadlineExceeded thread path) := by
  have unhealthy : ({ watcher with alive := false } : Watcher).TidyDuring [] := by
    intro other
    apply (tidy other).frame
    · rfl
    · rfl
    · exact fun _ _ => Iff.rfl
    · exact id
    · exact .inr
    · rfl
  have flagged : ({ watcher with alive := false } : Watcher).idle.get? path = some true :=
    ((tidy path).live_of_unfinished stands (by simp)).2.2.1
  have left := tidy_leaves true unhealthy stands (by simp)
  rw [marked_self flagged] at left
  rw [deadlineExceeded, gracefulWatchExit]
  split
  · rename_i empty
    have allOver := finished_of_empty left empty.1
    constructor
    · intro other
      apply Tidy.absent
      · exact congrArg (Dict.get? · other) empty.1
      · intro thread place stands _
        exact allOver _ (List.mem_of_getElem? stands)
    · rintro cause exited
      cases exited
      exact ⟨rfl, allOver⟩
  · exact sound_of_running left running

/-- A loop between events is wanted, or a call has yet to come to it. -/
theorem asked_idling (tidy : watcher.TidyDuring [])
    (stands : watcher.loops[thread]? = some ⟨path, place⟩) (unfinished : place ≠ .finished)
    (idling : place ≠ .handling) :
    watcher.idle.get? path = some true ∧
      (watcher.wanted path = true ∨ ∃ call ∈ watcher.calls, path ∈ call.rest) := by
  obtain ⟨_, _, flagged, asked, _⟩ := (tidy path).live_of_unfinished stands unfinished
  constructor
  · rw [flagged, bne_iff_ne.mpr idling]
  · rcases asked with handling | wanted | awaited | none
    · exact absurd handling idling
    · exact .inl wanted
    · exact .inr awaited
    · cases none

/-- A careful step of a thread. -/
theorem sound_loopStep {action : Action} (tidy : watcher.TidyDuring [])
    (running : watcher.exited = none) (stands : watcher.loops[thread]? = some ⟨path, place⟩)
    (allowed : carefulLoop watcher path place action = true)
    (taken : loopStep watcher thread path place action = some after) : Sound after := by
  cases place <;> cases action <;> cases taken
  case unstarted.begins =>
      obtain ⟨flagged, asked⟩ := asked_idling tidy stands (by simp) (by simp)
      apply sound_of_running
      · have round := tidy_nextRound .watching tidy stands (by simp) (by simp) (by simp) asked
        rwa [marked_self flagged] at round
      · exact running
  case watching.event =>
      apply sound_of_running
      · exact tidy_goes .handling tidy stands (by simp) (by simp) (.inl rfl)
      · exact running
  case watching.raises =>
      obtain ⟨_, asked⟩ := asked_idling tidy stands (by simp) (by simp)
      apply sound_of_running
      · exact tidy_nextRound .sleeping tidy stands (by simp) (by simp) (by simp) asked
      · exact running
  case handling.handled => exact sound_handled tidy running stands allowed
  case handling.raises =>
      apply sound_of_running
      · exact tidy_nextRound .sleeping tidy stands (by simp) (by simp) (by simp) (.inl allowed)
      · exact running
  case sleeping.slept =>
      obtain ⟨flagged, asked⟩ := asked_idling tidy stands (by simp) (by simp)
      apply sound_of_running
      · have goes := tidy_goes .watching tidy stands (by simp) (by simp) (.inr asked)
        rwa [show (Place.watching != .handling) = true from rfl, marked_self flagged] at goes
      · exact running
  case sleeping.deadlineExceeded => exact sound_deadlineExceeded tidy running stands

end Watcher

/-- One careful step keeps the watcher in order. -/
theorem sound_step : PreservedBy step (fun watcher label => careful watcher label = true) Sound := by
  intro watcher label after allowed sound taken
  unfold step at taken
  split at taken
  · cases taken
  rename_i goesOn
  have running : watcher.exited = none := by
    simpa using goesOn
  cases label with
  | add path =>
      cases taken
      exact Watcher.sound_add sound.tidy running allowed
  | remove path =>
      cases taken
      exact Watcher.sound_remove sound.tidy running allowed
  | start =>
      cases taken
      exact (Watcher.sound_start sound.tidy running allowed).1
  | stop =>
      cases taken
      exact Watcher.sound_stop sound.tidy running allowed
  | resume call =>
      obtain ⟨waits, same⟩ := Option.ite_none_right_eq_some.mp taken
      cases same
      exact Watcher.sound_resume sound.tidy running waits allowed
  | loop thread action =>
      obtain ⟨⟨path, place⟩, stands, continued⟩ := Option.bind_eq_some_iff.mp taken
      rw [careful, stands] at allowed
      exact Watcher.sound_loopStep sound.tidy running stands allowed continued

/-- In a careful run the process exits only when the deadline of its last loop is
exceeded, never on behalf of `stop` or `remove`, and whenever `start` is called, also
after `stop`, every resource has a loop. -/
theorem stop_then_start {labels : List Label} {watcher : Watcher}
    (ran : GuardedRun step (fun watcher label => careful watcher label = true) {} labels
      watcher) :
    (∀ cause, watcher.exited = some cause →
      cause = .deadlineExceeded ∧ ∀ loop ∈ watcher.loops, loop.place = .finished) ∧
    ∀ started, careful watcher .start = true → step watcher .start = some started →
      ∀ path ∈ started.resources,
        ∃ loop ∈ started.loops, loop.path = path ∧ loop.place ≠ .finished := by
  have initial : Sound {} := by
    apply Watcher.sound_of_running
    · intro path
      exact .absent rfl (by simp [Watcher.Finished])
    · rfl
  have sound : Sound watcher := ran.invariant sound_step initial
  constructor
  · exact sound.exits
  · intro started allowed taken
    obtain ⟨goesOn, same⟩ := Option.ite_none_left_eq_some.mp taken
    cases same
    exact (Watcher.sound_start sound.tidy (by simpa using goesOn) allowed).2

/-- A `stop` that finds one of two loops handling an event, and the `start` after it. -/
def busyStop : List Label :=
  [.add "/api/v1/pods", .add "/api/v1/services", .start, .loop 0 .begins, .loop 1 .begins,
    .loop 1 .event, .stop, .resume ⟨"/api/v1/services", ["/api/v1/pods"]⟩]

theorem stop_then_start_busy :
    ∃ watcher started, run step busyStop {} = some watcher ∧
      step watcher .start = some started ∧ watcher.exited = none ∧
      ∀ path ∈ ["/api/v1/pods", "/api/v1/services"],
        ∃ loop ∈ started.loops, loop.path = path ∧ loop.place ≠ .finished := by
  have ends : (runIf step (fun watcher label => careful watcher label = true) busyStop {}).any
      (fun watcher => watcher.exited = none ∧ careful watcher .start = true ∧
        (step watcher .start).any (fun started =>
          started.resources = ["/api/v1/services", "/api/v1/pods"])) = true := by
    decide +kernel
  rcases ran : runIf step (fun watcher label => careful watcher label = true) busyStop {}
    with _ | watcher
  · rw [ran] at ends
    cases ends
  rw [ran, Option.any_some] at ends
  obtain ⟨goesOn, allowed, starts⟩ := of_decide_eq_true ends
  rcases taken : step watcher .start with _ | started
  · rw [taken] at starts
    cases starts
  rw [taken, Option.any_some] at starts
  have resources := of_decide_eq_true starts
  have guarded := guardedRun_of_runIf ran
  refine ⟨watcher, started, guarded.run_eq_some, taken, goesOn, ?_⟩
  intro path listed
  apply (stop_then_start guarded).2 started allowed taken path
  rw [resources]
  exact (List.Perm.swap _ _ _).mem_iff.mp listed

/-- `stop` kills the only loop, which is idle, and the process exits. -/
theorem stop_exits :
    (run step [.add "/api/v1/pods", .start, .loop 0 .begins, .stop] {}).map Watcher.exited =
      some (some .requested) := by
  decide +kernel

end KuryrKubernetes.Watching

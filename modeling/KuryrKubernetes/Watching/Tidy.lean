import KuryrKubernetes.Watching.Watcher

/-!
# Entries and loops

Every path has either no entry, or the entry of its one thread that has not finished,
or that of a thread that a waiting call has killed or is about to come to.  The parts of
the steps of the watcher keep this, as long as no path is started that a waiting call is
engaged with.
-/

namespace KuryrKubernetes.Watching

open KuryrKubernetes.Data
open KuryrKubernetes.Transition

namespace Watcher

variable {watcher after : Watcher} {path other : String} {thread : Nat}

/-- A waiting call has killed the path or has yet to come to it. -/
def engaged (watcher : Watcher) (path : String) : Bool :=
  watcher.calls.any fun call => call.killed == path || call.rest.contains path

/-- A path other than `path` has an entry. -/
def otherLeft (watcher : Watcher) (path : String) : Bool :=
  (watcher.watching.keys ++ watcher.idle.keys).any (· != path)

/-- The loop that `stopWatches` kills, if it has begun, is not the last one. -/
def sparesLast (watcher : Watcher) : List String → Bool
  | [] => true
  | path :: rest =>
      match watcher.idle.getD path false, watcher.watching.get? path with
      | true, some thread =>
          (watcher.place? thread).all fun place =>
            place = .unstarted || place = .finished || watcher.otherLeft path
      | _, _ => watcher.sparesLast rest

end Watcher

/-! ## One path -/

namespace Watcher

variable {watcher after : Watcher} {path other : String} {thread : Nat} {place : Place}
  {pending killed : Prop}

/-- The threads that run `_watch(path)` have finished, but for those of `kept`. -/
def Finished (watcher : Watcher) (path : String) (kept : Nat → Prop) : Prop :=
  ∀ thread place, watcher.loops[thread]? = some ⟨path, place⟩ → ¬ kept thread →
    place = .finished

/-- What the watcher holds about one path: nothing, a thread that has not finished, or
the entries of one that has.  `pending` says that a call has yet to come to the path,
`killed` that a call has killed its loop and waits. -/
inductive Tidy (watcher : Watcher) (path : String) (pending killed : Prop) : Prop
  | absent
      (unlisted : watcher.watching.get? path = none)
      (finished : watcher.Finished path fun _ => False)
  | live (thread : Nat) (place : Place)
      (listed : watcher.watching.get? path = some thread)
      (stands : watcher.loops[thread]? = some ⟨path, place⟩)
      (unfinished : place ≠ .finished)
      (alone : watcher.Finished path (· = thread))
      (flagged : watcher.idle.get? path = some (place != .handling))
      (asked : place = .handling ∨ watcher.wanted path = true ∨ pending)
      (untouched : ¬ killed)
  | dead (thread : Nat)
      (listed : watcher.watching.get? path = some thread)
      (stands : watcher.loops[thread]? = some ⟨path, .finished⟩)
      (finished : watcher.Finished path fun _ => False)
      (flagged : watcher.idle.get? path = some true)
      (due : killed ∨ pending)

/-- The same threads run `_watch(path)`, at the same places. -/
def SameLoops (watcher after : Watcher) (path : String) : Prop :=
  ∀ (thread : Nat) (place : Place),
    after.loops[thread]? = some ⟨path, place⟩ ↔ watcher.loops[thread]? = some ⟨path, place⟩

namespace Tidy

/-- What concerns the path is left alone, and as much asks for its loop as before. -/
theorem frame {pending' killed' : Prop} (tidy : watcher.Tidy path pending killed)
    (sameEntry : after.watching.get? path = watcher.watching.get? path)
    (sameFlag : after.idle.get? path = watcher.idle.get? path)
    (sameLoops : watcher.SameLoops after path)
    (asked : watcher.wanted path = true ∨ pending → after.wanted path = true ∨ pending')
    (stillPending : pending → killed' ∨ pending')
    (sameKilled : killed' ↔ killed) : after.Tidy path pending' killed' := by
  have finishes {kept : Nat → Prop} (finished : watcher.Finished path kept) :
      after.Finished path kept := by
    intro thread place found
    exact finished thread place ((sameLoops thread place).mp found)
  cases tidy with
  | absent unlisted finished => exact .absent (sameEntry.trans unlisted) (finishes finished)
  | live thread place listed stands unfinished alone flagged asks untouched =>
      apply Tidy.live thread place (sameEntry.trans listed)
        ((sameLoops thread place).mpr stands) unfinished (finishes alone)
        (sameFlag.trans flagged)
      · rcases asks with handling | asks
        · exact .inl handling
        · exact .inr (asked asks)
      · exact fun isKilled => untouched (sameKilled.mp isKilled)
  | dead thread listed stands finished flagged due =>
      apply Tidy.dead thread (sameEntry.trans listed) ((sameLoops thread _).mpr stands)
        (finishes finished) (sameFlag.trans flagged)
      rcases due with isKilled | isPending
      · exact .inl (sameKilled.mpr isKilled)
      · exact stillPending isPending

/-- A thread that has not finished is the one with the entry. -/
theorem live_of_unfinished (tidy : watcher.Tidy path pending killed)
    (stands : watcher.loops[thread]? = some ⟨path, place⟩) (unfinished : place ≠ .finished) :
    watcher.watching.get? path = some thread ∧ watcher.Finished path (· = thread) ∧
      watcher.idle.get? path = some (place != .handling) ∧
      (place = .handling ∨ watcher.wanted path = true ∨ pending) ∧ ¬ killed := by
  cases tidy with
  | absent unlisted finished => exact absurd (finished thread place stands not_false) unfinished
  | dead _ _ _ finished => exact absurd (finished thread place stands not_false) unfinished
  | live known knownPlace listed knownStands _ alone flagged asked untouched =>
      have same : thread = known := by
        by_contra different
        exact unfinished (alone thread place stands different)
      subst known
      cases Option.some.inj (stands.symm.trans knownStands)
      exact ⟨listed, alone, flagged, asked, untouched⟩

end Tidy

/-! ## The parts of a step -/

theorem moved_loops (watcher : Watcher) (thread : Nat) (place : Place) (asked : Nat) :
    (watcher.moved thread place).loops[asked]? =
      if thread = asked then
        (watcher.loops[asked]?).map fun loop => { loop with place := place }
      else watcher.loops[asked]? := by
  rw [moved, List.getElem?_modify]
  split <;> simp

/-- Moving a thread does not concern other paths. -/
theorem sameLoops_moved (stands : watcher.loops[thread]? = some ⟨path, place⟩)
    (apart : other ≠ path) (target : Place) :
    watcher.SameLoops (watcher.moved thread target) other := by
  intro asked place
  rw [moved_loops]
  split
  · subst asked
    rw [stands]
    simp [Ne.symm apart]
  · rfl

/-- A thread that was alone is alone after it was moved, and none is left if it was
moved to its end. -/
theorem finished_moved {kept : Nat → Prop}
    (stands : watcher.loops[thread]? = some ⟨path, place⟩)
    (alone : watcher.Finished path (· = thread)) (target : Place)
    (ends : kept thread ∨ target = .finished) :
    (watcher.moved thread target).Finished path kept := by
  intro asked found stood unkept
  rw [moved_loops] at stood
  split at stood
  · subst asked
    rw [stands] at stood
    cases stood
    rcases ends with isKept | isEnd
    · exact absurd isKept unkept
    · exact isEnd
  · rename_i different
    exact alone asked found stood (Ne.symm different)

theorem otherLeft_iff :
    watcher.otherLeft path = true ↔
      ∃ other, other ≠ path ∧ (other ∈ watcher.watching ∨ other ∈ watcher.idle) := by
  simp [otherLeft, Dict.mem_keys_iff, and_or_left, exists_or, and_comm]

/-- A loop that is not the last one leaves without exiting. -/
theorem gracefulWatchExit_of_otherLeft {cause : Cause}
    (left : watcher.otherLeft path = true) :
    watcher.gracefulWatchExit path cause = watcher.forget path := by
  obtain ⟨other, apart, inWatching | inIdle⟩ := otherLeft_iff.mp left
  · apply if_neg
    rintro ⟨unwatched, _⟩
    have still : other ∈ watcher.watching.erase path :=
      Dict.mem_erase.mpr ⟨apart, inWatching⟩
    rw [show watcher.watching.erase path = ∅ from unwatched] at still
    exact Dict.not_mem_empty other still
  · apply if_neg
    rintro ⟨_, unmarked⟩
    have still : other ∈ watcher.idle.erase path :=
      Dict.mem_erase.mpr ⟨apart, inIdle⟩
    rw [show watcher.idle.erase path = ∅ from unmarked] at still
    exact Dict.not_mem_empty other still

/-- Every path is tidy while a call goes through `paths`. -/
def TidyDuring (watcher : Watcher) (paths : List String) : Prop :=
  ∀ path, watcher.Tidy path ((∃ call ∈ watcher.calls, path ∈ call.rest) ∨ path ∈ paths)
    (∃ call ∈ watcher.calls, call.killed = path)

/-- The loop of a path is over and its entries are gone. -/
theorem absent_left {pending' killed' : Prop} (tidy : watcher.Tidy path pending killed)
    (stands : watcher.loops[thread]? = some ⟨path, place⟩) (unfinished : place ≠ .finished) :
    ((watcher.moved thread .finished).forget path).Tidy path pending' killed' := by
  have alone := (tidy.live_of_unfinished stands unfinished).2.1
  exact .absent (Dict.get?_erase_self _ _) (finished_moved stands alone .finished (.inr rfl))

/-- A loop that leaves does not concern other paths. -/
theorem frame_left (tidy : watcher.Tidy other pending killed)
    (stands : watcher.loops[thread]? = some ⟨path, place⟩) (apart : other ≠ path) :
    ((watcher.moved thread .finished).forget path).Tidy other pending killed := by
  apply tidy.frame
  · exact (Dict.get?_erase ..).trans (if_neg apart)
  · exact (Dict.get?_erase ..).trans (if_neg apart)
  · exact sameLoops_moved stands apart .finished
  · exact id
  · exact .inr
  · exact Iff.rfl

/-! ## Calls -/

/-- A call passes over a path whose loop is handling an event or has no entry. -/
theorem tidy_passed {rest : List String} (tidy : watcher.TidyDuring (path :: rest))
    (passed : watcher.idle.get? path = some true → watcher.watching.get? path = none) :
    watcher.TidyDuring rest := by
  intro other
  by_cases same : other = path
  · subst other
    cases tidy path with
    | absent unlisted finished => exact .absent unlisted finished
    | live thread place listed stands unfinished alone flagged asked untouched =>
        apply Tidy.live thread place listed stands unfinished alone flagged
        · left
          by_contra idling
          have unlisted := passed (by rw [flagged, bne_iff_ne.mpr idling])
          cases listed.symm.trans unlisted
        · exact untouched
    | dead thread listed stands finished flagged due =>
        cases listed.symm.trans (passed flagged)
  · apply (tidy other).frame rfl rfl (fun _ _ => Iff.rfl)
    · simp [same]
    · intro awaited
      right
      simpa [same] using awaited
    · rfl

/-- A call has killed the loop of `path`, which is over, and waits. -/
theorem tidy_waiting {left : Watcher} {rest : List String}
    (others : ∀ other, other ≠ path →
      left.Tidy other
        ((∃ call ∈ watcher.calls, other ∈ call.rest) ∨ other ∈ path :: rest)
        (∃ call ∈ watcher.calls, call.killed = other))
    (own : left.Tidy path False True) :
    ({ left with calls := watcher.calls ++ [⟨path, rest⟩] } : Watcher).TidyDuring [] := by
  intro other
  by_cases same : other = path
  · subst other
    apply own.frame
    · rfl
    · rfl
    · exact fun _ _ => Iff.rfl
    · rintro (wanted | none)
      · exact .inl wanted
      · exact none.elim
    · exact False.elim
    · simp
  · apply (others other same).frame
    · rfl
    · rfl
    · exact fun _ _ => Iff.rfl
    · rintro (wanted | awaited)
      · exact .inl wanted
      · right
        simpa [same, or_and_right, exists_or] using awaited
    · intro awaited
      right
      simpa [same, or_and_right, exists_or] using awaited
    · simp [Ne.symm same, or_and_right, exists_or]

/-- A kill ends the loop of the path; the loop that exits the process was the last. -/
theorem tidy_kill {rest : List String} (tidy : watcher.TidyDuring (path :: rest))
    (flagged : watcher.idle.get? path = some true)
    (listed : watcher.watching.get? path = some thread)
    (spares : (watcher.place? thread).all (fun place =>
      place = .unstarted || place = .finished || watcher.otherLeft path) = true)
    (running : watcher.exited = none) :
    ({ watcher.kill thread with
        calls := watcher.calls ++ [⟨path, rest⟩] } : Watcher).TidyDuring [] ∧
      (watcher.kill thread).exited = none := by
  cases tidy path with
  | absent unlisted => cases listed.symm.trans unlisted
  | dead known knownListed stands finished =>
      cases Option.some.inj (listed.symm.trans knownListed)
      have unchanged : watcher.kill thread = watcher := by
        simp [kill, stands]
      rw [unchanged]
      constructor
      · apply tidy_waiting (fun other _ => tidy other)
        exact .dead thread listed stands finished flagged (.inl trivial)
      · exact running
  | live known place knownListed stands unfinished alone knownFlagged =>
      cases Option.some.inj (listed.symm.trans knownListed)
      by_cases begun : place = .unstarted
      · subst place
        have dies : watcher.kill thread = watcher.moved thread .finished := by
          simp [kill, stands]
        rw [dies]
        constructor
        · apply tidy_waiting
          · intro other apart
            exact (tidy other).frame rfl rfl (sameLoops_moved stands apart .finished) id .inr
              Iff.rfl
          · apply Tidy.dead thread
            · exact listed
            · rw [moved_loops, if_pos rfl, stands]
              rfl
            · exact finished_moved stands alone .finished (.inr rfl)
            · exact flagged
            · exact .inl trivial
        · exact running
      · have left : watcher.otherLeft path = true := by
          simpa [place?, stands, begun, unfinished] using spares
        have leaves : watcher.kill thread = (watcher.moved thread .finished).forget path := by
          have graceful : (watcher.moved thread .finished).gracefulWatchExit path .requested =
              (watcher.moved thread .finished).forget path :=
            gracefulWatchExit_of_otherLeft left
          cases place <;> simp_all [kill]
        rw [leaves]
        constructor
        · apply tidy_waiting
          · intro other apart
            exact frame_left (tidy other) stands apart
          · exact absent_left (tidy path) stands unfinished
        · exact running

/-- What a call kills next depends on the maps and the threads alone. -/
theorem sparesLast_congr (sameWatching : after.watching = watcher.watching)
    (sameIdle : after.idle = watcher.idle) (sameLoops : after.loops = watcher.loops)
    (paths : List String) : after.sparesLast paths = watcher.sparesLast paths := by
  induction paths with
  | nil => rfl
  | cons path rest ih =>
      simp only [sparesLast, otherLeft, place?, sameWatching, sameIdle, sameLoops, ih]

/-- A call that goes through `paths` leaves every path tidy, up to its next kill. -/
theorem tidy_stopWatches {paths : List String} (tidy : watcher.TidyDuring paths)
    (spares : watcher.sparesLast paths = true) (running : watcher.exited = none) :
    (watcher.stopWatches paths).TidyDuring [] ∧
      (watcher.stopWatches paths).exited = none := by
  induction paths with
  | nil => exact ⟨tidy, running⟩
  | cons path rest ih =>
      rw [sparesLast] at spares
      rw [stopWatches]
      split
      · rename_i thread flag listed
        rw [flag, listed] at spares
        have flagged : watcher.idle.get? path = some true := by
          simpa [Dict.getD, Option.getD_eq_iff] using flag
        exact tidy_kill tidy flagged listed spares running
      · rename_i passed
        split at spares
        · rename_i thread flag listed
          exact absurd listed (passed thread flag)
        · apply ih _ spares
          apply tidy_passed tidy
          intro flagged
          apply Option.eq_none_iff_forall_ne_some.mpr
          intro thread
          exact passed thread (by rw [Dict.getD, flagged, Option.getD_some])

/-- A path no waiting call is engaged with is not on its lists. -/
theorem not_engaged (free : watcher.engaged path = false) :
    (¬ ∃ call ∈ watcher.calls, path ∈ call.rest) ∧
      ¬ ∃ call ∈ watcher.calls, call.killed = path := by
  rw [engaged, List.any_eq_false] at free
  constructor
  · rintro ⟨call, waits, listed⟩
    have engages := free call waits
    simp [listed] at engages
  · rintro ⟨call, waits, killed⟩
    have engages := free call waits
    simp [killed] at engages

/-- The path has a thread that has not finished. -/
def HasLoop (watcher : Watcher) (path : String) : Prop :=
  ∃ loop ∈ watcher.loops, loop.path = path ∧ loop.place ≠ .finished

/-- A path with an entry that no call is engaged with has a loop. -/
theorem hasLoop_of_listed (tidy : watcher.TidyDuring [])
    (free : watcher.engaged path = false) (listed : path ∈ watcher.watching) :
    watcher.HasLoop path := by
  obtain ⟨known, entry⟩ := Dict.mem_iff_exists_get?.mp listed
  obtain ⟨unawaited, unkilled⟩ := not_engaged free
  cases tidy path with
  | absent unlisted => cases entry.symm.trans unlisted
  | live thread place _ stands unfinished =>
      exact ⟨⟨path, place⟩, List.mem_of_getElem? stands, rfl, unfinished⟩
  | dead thread _ _ _ _ due =>
      rcases due with killed | awaited | none
      · exact absurd killed unkilled
      · exact absurd awaited unawaited
      · cases none

/-- A new loop for a path without an entry. -/
theorem tidy_startWatch (tidy : watcher.TidyDuring []) (wanted : watcher.wanted path = true)
    (free : watcher.engaged path = false) (unlisted : path ∉ watcher.watching) :
    (watcher.startWatch path).TidyDuring [] := by
  intro other
  by_cases same : other = path
  · subst other
    have finished : watcher.Finished path fun _ => False := by
      cases tidy path with
      | absent _ finished => exact finished
      | live thread _ listed =>
          exact absurd (Dict.mem_iff_exists_get?.mpr ⟨thread, listed⟩) unlisted
      | dead _ _ _ finished => exact finished
    apply Tidy.live watcher.loops.length .unstarted
    · exact Dict.get?_set_self _ _ _
    · exact List.getElem?_concat_length
    · simp
    · intro thread place stands new
      have old : thread < watcher.loops.length := by
        have within := (List.getElem?_eq_some_iff.mp stands).1
        simp only [startWatch, List.length_append, List.length_singleton] at within
        omega
      exact finished thread place
        ((List.getElem?_append_left old).symm.trans stands) not_false
    · exact Dict.get?_set_self _ _ _
    · exact .inr (.inl wanted)
    · exact (not_engaged free).2
  · apply (tidy other).frame
    · exact Dict.get?_set_of_ne _ _ same
    · exact Dict.get?_set_of_ne _ _ same
    · intro thread place
      rw [startWatch, List.getElem?_append]
      split
      · rfl
      · rename_i new
        rw [List.getElem?_eq_none (Nat.not_lt.mp new)]
        simp [List.getElem?_singleton, Ne.symm same]
    · exact id
    · exact .inr
    · rfl

/-- What `ensureWatch` does not change. -/
theorem ensureWatch_keeps (watcher : Watcher) (path : String) :
    (watcher.ensureWatch path).running = watcher.running ∧
      (watcher.ensureWatch path).resources = watcher.resources ∧
      (watcher.ensureWatch path).calls = watcher.calls ∧
      (watcher.ensureWatch path).exited = watcher.exited ∧
      ∃ new, (watcher.ensureWatch path).loops = watcher.loops ++ new := by
  rw [ensureWatch]
  split
  · exact ⟨rfl, rfl, rfl, rfl, [], (List.append_nil _).symm⟩
  · exact ⟨rfl, rfl, rfl, rfl, _, rfl⟩

theorem tidy_ensureWatch (tidy : watcher.TidyDuring []) (wanted : watcher.wanted path = true)
    (free : watcher.engaged path = false) :
    (watcher.ensureWatch path).TidyDuring [] ∧
      (watcher.ensureWatch path).HasLoop path := by
  rw [ensureWatch]
  split
  · rename_i listed
    exact ⟨tidy, hasLoop_of_listed tidy free listed⟩
  · rename_i unlisted
    constructor
    · exact tidy_startWatch tidy wanted free unlisted
    · exact ⟨⟨path, .unstarted⟩, List.mem_append_right _ (List.mem_singleton_self _), rfl,
        by simp⟩

/-- Starting the loops of wanted paths that no call is engaged with. -/
theorem tidy_ensureWatches {paths : List String} (tidy : watcher.TidyDuring [])
    (wanted : ∀ path ∈ paths, watcher.wanted path = true)
    (free : ∀ path ∈ paths, watcher.engaged path = false) :
    (paths.foldl ensureWatch watcher).TidyDuring [] ∧
      (paths.foldl ensureWatch watcher).exited = watcher.exited ∧
      (paths.foldl ensureWatch watcher).resources = watcher.resources ∧
      ∀ path, path ∈ paths ∨ watcher.HasLoop path →
        (paths.foldl ensureWatch watcher).HasLoop path := by
  induction paths generalizing watcher with
  | nil => exact ⟨tidy, rfl, rfl, fun _ given => given.resolve_left List.not_mem_nil⟩
  | cons first rest ih =>
      obtain ⟨sameRunning, sameResources, sameCalls, sameExited, new, grown⟩ :=
        watcher.ensureWatch_keeps first
      obtain ⟨firstTidy, firstLoop⟩ := tidy_ensureWatch tidy
        (wanted first List.mem_cons_self) (free first List.mem_cons_self)
      have restWanted : ∀ path ∈ rest, (watcher.ensureWatch first).wanted path = true := by
        intro path listed
        rw [Watcher.wanted, sameRunning, sameResources]
        exact wanted path (List.mem_cons_of_mem _ listed)
      have restFree : ∀ path ∈ rest, (watcher.ensureWatch first).engaged path = false := by
        intro path listed
        rw [engaged, sameCalls]
        exact free path (List.mem_cons_of_mem _ listed)
      obtain ⟨restTidy, restExited, restResources, loops⟩ := ih firstTidy restWanted restFree
      rw [List.foldl_cons]
      refine ⟨restTidy, restExited.trans sameExited, restResources.trans sameResources, ?_⟩
      rintro path (listed | ⟨loop, member, runs⟩)
      · rcases List.mem_cons.mp listed with rfl | later
        · exact loops path (.inr firstLoop)
        · exact loops path (.inl later)
      · apply loops path
        right
        exact ⟨loop, grown ▸ List.mem_append_left _ member, runs⟩

end Watcher

end KuryrKubernetes.Watching

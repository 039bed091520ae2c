import KuryrKubernetes.Cni.Identity

/-!
# Removal of entries

The watcher and the last DEL agree by two flags on who removes an entry.  The
flags never get lost, as they are changed under the lock only.  But the flag that
the VIFs are unplugged stays when an ADD plugs them again, so an entry can be
removed while it is in use.
-/

namespace KuryrKubernetes.Cni

open KuryrKubernetes.Data
open KuryrKubernetes.Transition

/-! ## Flags -/

/-- The flags of an entry. -/
def Entry.flags (entry : Entry) : Flags where
  containerid := entry.containerid
  vifUnplugged := entry.vifUnplugged
  delReceived := entry.delReceived

theorem flags_onDone (pod : Pod) (vifs : Dict String Vif) (entry : Option Entry) :
    (onDone pod vifs entry).map Entry.flags = Flags.done (entry.map Entry.flags) := by
  cases entry with
  | none => rfl
  | some entry =>
      rw [onDone]
      split <;> rfl

theorem flags_onDeleted (entry : Option Entry) :
    (onDeleted entry).map Entry.flags = Flags.deleted (entry.map Entry.flags) := by
  cases entry with
  | none => rfl
  | some entry =>
      rw [onDeleted, Option.map_some, Flags.deleted]
      cases unplugged : entry.vifUnplugged <;> simp [Entry.flags, unplugged]

theorem flags_saveContainerid (containerid : String) (entry : Option Entry) :
    (saveContainerid containerid entry).map Entry.flags =
      Flags.saved containerid (entry.map Entry.flags) := by
  cases entry <;> rfl

theorem flags_finishDelete (entry : Option Entry) :
    (finishDelete entry).map Entry.flags = Flags.unplugged (entry.map Entry.flags) := by
  cases entry with
  | none => rfl
  | some entry =>
      rw [finishDelete, Option.map_some, Flags.unplugged]
      cases received : entry.delReceived <;> simp [Entry.flags, received]

/-- The entry has the flags that were written. -/
def FlagsKept (slot : Slot) : Prop :=
  slot.entry.map Entry.flags = slot.trace.flags

/-- A section that changes entry and flags alike loses no flag. -/
theorem FlagsKept.written {before after : Slot} (kept : FlagsKept before)
    {change : Option Entry → Option Entry} {flagChange : Option Flags → Option Flags}
    (alike : ∀ entry, (change entry).map Entry.flags = flagChange (entry.map Entry.flags))
    (value : after.entry = change before.entry)
    (flags : after.trace.flags = flagChange before.trace.flags) : FlagsKept after :=
  calc
    after.entry.map Entry.flags = (change before.entry).map Entry.flags := by rw [value]
    _ = flagChange (before.entry.map Entry.flags) := alike before.entry
    _ = flagChange before.trace.flags := by rw [kept]
    _ = after.trace.flags := flags.symm

theorem flagsKept_step : PreservedBy slotStep (fun _ _ => True) FlagsKept := by
  intro slot action after _ kept taken
  cases stepped_of_slotStep taken with
  | unannotated unnamed => exact kept
  | present named => exact kept
  | deleted pod => exact kept
  | watcherLocked same => exact (congrArg (Option.map Entry.flags) same).trans kept
  | doneWritten busy value => exact kept.written (flags_onDone _ _) value rfl
  | deletedWritten busy value => exact kept.written flags_onDeleted value rfl
  | started command params podUid => exact kept
  | quiet sent allowed => exact kept
  | @worked index request pod ifname vif rest sent working =>
      have same : (slot.trace.called request.command request.params.containerid vif).flags =
          slot.trace.flags := by
        cases request.command <;> rfl
      exact kept.trans same.symm
  | locked same => exact (congrArg (Option.map Entry.flags) same).trans kept
  | saved sent adds locking value left => exact kept.written (flags_saveContainerid _) value rfl
  | unplugged sent deletes locking value => exact kept.written flags_finishDelete value rfl

/-- No run loses a flag. -/
theorem flags_kept {actions : List (String × Action)} {registry : Registry}
    (executed : run step actions initial = some registry) (podName : String) :
    FlagsKept (registry podName) := by
  have guarded : GuardedRun step (AtKey fun _ _ => True) initial actions registry :=
    guardedRun_of_run executed
  apply guarded.invariant_keyed flagsKept_step
  intro key
  rfl

/-! ## The law of removals -/

/-- The handshake: an entry was removed only after the `DELETED` event of its pod and
with no VIF plugged, and its flags are those that were written. -/
structure KeepsHandshake (slot : Slot) : Prop where
  removals : ∀ removal ∈ slot.trace.removals, removal.deletedReceived ∧ removal.plugs = []
  flags : FlagsKept slot

/-- The VIFs of an entry. -/
def vifIds (vifs : Dict String Vif) : List String :=
  vifs.values.map (·.id)

/-- What a request still has to work on. -/
def Request.toWork (request : Request) : List (String × Vif) :=
  match request.phase with
  | .working _ remaining => remaining
  | _ => []

/-- The VIFs that a request still has to work on. -/
def Request.vifsToWork (request : Request) : List String :=
  request.toWork.map (·.2.id)

/-- A DEL that found its entry and has not ended. -/
def Request.unplugs (request : Request) : Bool :=
  request.command = .delete &&
    match request.phase with
    | .working .. | .locking => true
    | _ => false

/-- A VIF that gets plugged will be disconnected before the entry goes: the entry names
it and is not marked as unplugged, and each DEL under way still has to come to it. -/
def PlugsInView (slot : Slot) (vif : Vif) : Prop :=
  (∃ entry ∈ slot.entry, entry.vifUnplugged = false ∧ vif.id ∈ vifIds entry.vifs) ∧
    ∀ request ∈ slot.requests, request.unplugs → vif.id ∈ request.vifsToWork

instance (slot : Slot) (vif : Vif) : Decidable (PlugsInView slot vif) :=
  inferInstanceAs (Decidable ((∃ entry ∈ slot.entry, _) ∧ ∀ request ∈ slot.requests, _))

/-- The pod whose deletion `on_deleted` is about to register. -/
def Watch.deletedPod : Watch → Option Pod
  | .deleted pod => some pod
  | _ => none

/-- The VIFs that `on_done` is about to register. -/
def Watch.doneVifs : Watch → Option (Dict String Vif)
  | .done _ vifs => some vifs
  | _ => none

/-- A step that keeps plugged VIFs in view: an ADD plugs in view, new VIFs of an entry
name all that are plugged, and the `DELETED` event is about the pod of the entry. -/
def KeepsView (slot : Slot) : Action → Prop
  | .watcherWrite =>
      (∀ pod ∈ slot.watcher.deletedPod, ∀ entry ∈ slot.entry, entry.pod.uid = pod.uid) ∧
        ∀ vifs ∈ slot.watcher.doneVifs, ∀ entry ∈ slot.entry,
          statusChanged entry.vifs vifs.items →
            ∀ plug ∈ slot.trace.plugs, plug.vifId ∈ vifIds vifs
  | .request index .work =>
      ∀ request ∈ slot.requests[index]?, request.command = .add →
        ∀ item ∈ request.toWork.head?, PlugsInView slot item.2
  | _ => True

instance (slot : Slot) (action : Action) : Decidable (KeepsView slot action) :=
  match action with
  | .watcherWrite =>
      inferInstanceAs (Decidable
        ((∀ pod ∈ slot.watcher.deletedPod, _) ∧ ∀ vifs ∈ slot.watcher.doneVifs, _))
  | .request index .work => inferInstanceAs (Decidable (∀ request ∈ slot.requests[index]?, _))
  | .present _ | .deleted _ | .watcherLock | .start .. | .request _ .check
  | .request _ .find | .request _ .timeout | .request _ (.workFails _) | .request _ .lock
  | .request _ .write | .request _ .wait | .request _ .giveUp => .isTrue trivial

/-! ## Plugs in view -/

/-- The plugged VIFs are in view of the entry and of every DEL under way, and a noted
deletion was told. -/
structure InView (slot : Slot) : Prop where
  entry : ∀ plug ∈ slot.trace.plugs, ∃ entry, slot.entry = some entry ∧
    entry.vifUnplugged = false ∧ plug.vifId ∈ vifIds entry.vifs
  requests : ∀ request ∈ slot.requests, request.unplugs →
    ∀ plug ∈ slot.trace.plugs, plug.vifId ∈ request.vifsToWork
  received : ∀ entry, slot.entry = some entry → entry.delReceived →
    entry.pod.uid ∈ slot.trace.deletedUids
  watcher : ∀ pod, slot.watcher = .deleted pod → pod.uid ∈ slot.trace.deletedUids
  removals : ∀ removal ∈ slot.trace.removals, removal.deletedReceived ∧ removal.plugs = []

/-- Without an entry, or once it is marked as unplugged, nothing is plugged. -/
theorem InView.unplugged {slot : Slot} (view : InView slot)
    (marked : ∀ entry, slot.entry = some entry → entry.vifUnplugged = true) :
    slot.trace.plugs = [] := by
  apply List.eq_nil_iff_forall_not_mem.mpr
  intro plug plugged
  obtain ⟨entry, listed, unmarked, _⟩ := view.entry plug plugged
  rw [marked entry listed] at unmarked
  cases unmarked

/-- A DEL that comes to its locked section has left nothing plugged. -/
theorem InView.unplugged_of_locking {slot : Slot} (view : InView slot) {request : Request}
    (sent : request ∈ slot.requests) (deletes : request.command = .delete)
    (locking : request.phase = .locking) : slot.trace.plugs = [] := by
  apply List.eq_nil_iff_forall_not_mem.mpr
  intro plug plugged
  have unplugs : request.unplugs := by simp [Request.unplugs, deletes, locking]
  have named := view.requests request sent unplugs plug plugged
  rw [Request.vifsToWork, Request.toWork, locking] at named
  cases named

theorem vifsToWork_workLeft (request : Request) (pod : Pod)
    (remaining : List (String × Vif)) :
    (request.at (workLeft pod remaining)).vifsToWork = remaining.map (·.2.id) := by
  cases remaining <;> rfl

/-! ## Steps -/

/-- A locked section removes no entry against the law. -/
theorem InView.removals_written {before after : Slot} (view : InView before)
    {flagChange : Option Flags → Option Flags}
    (trace : after.trace = before.trace.written before.entry after.entry flagChange)
    (removes : ∀ entry, before.entry = some entry → after.entry = none →
      entry.pod.uid ∈ before.trace.deletedUids ∧ before.trace.plugs = []) :
    ∀ removal ∈ after.trace.removals, removal.deletedReceived ∧ removal.plugs = [] := by
  intro removal recorded
  rw [trace] at recorded
  cases listed : before.entry with
  | none =>
      rw [listed] at recorded
      exact view.removals removal recorded
  | some entry =>
      cases gone : after.entry with
      | some kept =>
          rw [listed, gone] at recorded
          exact view.removals removal recorded
      | none =>
          rw [listed, gone] at recorded
          obtain ⟨told, unplugged⟩ := removes entry listed gone
          rcases List.mem_cons.mp recorded with rfl | earlier
          · exact ⟨decide_eq_true told, unplugged⟩
          · exact view.removals removal earlier

/-- `on_done` keeps the plugged VIFs in view. -/
theorem InView.doneWritten {slot : Slot} (view : InView slot) {pod : Pod}
    {vifs : Dict String Vif} {registry : Locked Party (Option Entry)}
    (busy : slot.watcher = .done pod vifs) (value : registry.value = onDone pod vifs slot.entry)
    (keeps : KeepsView slot .watcherWrite) :
    InView
      { slot with
        registry
        watcher := .idle
        trace := slot.trace.written slot.entry registry.value Flags.done } := by
  constructor
  · intro plug plugged
    obtain ⟨entry, listed, unmarked, named⟩ := view.entry plug plugged
    have value : registry.value = _ := value
    rw [listed, onDone] at value
    split at value
    · rename_i changed
      refine ⟨_, value, unmarked, ?_⟩
      exact keeps.2 vifs (by rw [busy]; rfl) entry listed changed plug plugged
    · exact ⟨_, value, unmarked, named⟩
  · exact view.requests
  · intro entry listed told
    rcases onDone_eq_some (value.symm.trans listed) with
      ⟨_, rfl⟩ | ⟨known, found, samePod, sameTold, _, _⟩
    · cases told
    · rw [samePod]
      exact view.received known found (sameTold ▸ told)
  · rintro _ ⟨⟩
  · apply view.removals_written rfl
    intro entry listed gone
    have made := value.symm.trans gone
    rw [listed, onDone] at made
    split at made <;> cases made

/-- `on_deleted` keeps the plugged VIFs in view, and finds nothing plugged when it
removes the entry. -/
theorem InView.deletedWritten {slot : Slot} (view : InView slot) {pod : Pod}
    {registry : Locked Party (Option Entry)} (busy : slot.watcher = .deleted pod)
    (value : registry.value = onDeleted slot.entry) (keeps : KeepsView slot .watcherWrite) :
    InView
      { slot with
        registry
        watcher := .idle
        trace := slot.trace.written slot.entry registry.value Flags.deleted } := by
  have samePod : ∀ entry, slot.entry = some entry → entry.pod.uid ∈ slot.trace.deletedUids := by
    intro entry listed
    rw [keeps.1 pod (by rw [busy]; rfl) entry listed]
    exact view.watcher pod busy
  constructor
  · intro plug plugged
    obtain ⟨entry, listed, unmarked, named⟩ := view.entry plug plugged
    have value : registry.value = _ := value
    rw [listed, onDeleted, if_neg (by simp [unmarked])] at value
    exact ⟨_, value, unmarked, named⟩
  · exact view.requests
  · intro entry listed _
    obtain ⟨known, found, pod, _⟩ := onDeleted_keepsPod _ _ (value.symm.trans listed)
    rw [pod]
    exact samePod known found
  · rintro _ ⟨⟩
  · apply view.removals_written rfl
    intro entry listed gone
    refine ⟨samePod entry listed, view.unplugged ?_⟩
    intro known found
    have removed := value.symm.trans gone
    rw [found, onDeleted] at removed
    split at removed
    · assumption
    · cases removed

/-- A call of the driver keeps the plugged VIFs in view. -/
theorem InView.worked {slot : Slot} (view : InView slot) {index : Nat} {request : Request}
    {pod : Pod} {ifname : String} {vif : Vif} {rest : List (String × Vif)}
    (sent : slot.requests[index]? = some request)
    (working : request.phase = .working pod ((ifname, vif) :: rest))
    (keeps : KeepsView slot (.request index .work)) :
    InView
      { slot.advance index (request.worked pod ifname vif rest) with
        trace := slot.trace.called request.command request.params.containerid vif } := by
  have member := List.mem_of_getElem? sent
  cases command : request.command with
  | add =>
      have inView : PlugsInView slot vif := by
        apply keeps request sent command (ifname, vif)
        rw [Request.toWork, working]
        rfl
      constructor
      · intro plug plugged
        rcases List.mem_cons.mp plugged with rfl | earlier
        · exact inView.1
        · exact view.entry plug (List.mem_of_mem_filter earlier)
      · intro other sentAfter unplugs plug plugged
        rcases mem_requests_advance sentAfter with earlier | rfl
        · rcases List.mem_cons.mp plugged with rfl | before
          · exact inView.2 other earlier unplugs
          · exact view.requests other earlier unplugs plug (List.mem_of_mem_filter before)
        · simp [Request.unplugs, Request.worked, command] at unplugs
      · exact view.received
      · exact view.watcher
      · exact view.removals
  | delete =>
      constructor
      · intro plug plugged
        exact view.entry plug (List.mem_of_mem_filter plugged)
      · intro other sentAfter unplugs plug plugged
        obtain ⟨before, other_ne⟩ := List.mem_filter.mp plugged
        rcases mem_requests_advance sentAfter with earlier | rfl
        · exact view.requests other earlier unplugs plug before
        · have listed : plug.vifId ∈ request.vifsToWork := by
            apply view.requests request member _ plug before
            simp [Request.unplugs, command, working]
          have left : (request.worked pod ifname vif rest).vifsToWork = rest.map (·.2.id) :=
            vifsToWork_workLeft (request.worked pod ifname vif rest) pod rest
          rw [Request.vifsToWork, Request.toWork, working, List.map_cons] at listed
          rw [left]
          rcases List.mem_cons.mp listed with same | remains
          · exact absurd same (of_decide_eq_true other_ne)
          · exact remains
      · exact view.received
      · exact view.watcher
      · exact view.removals

/-- A DEL that changes its phase still comes to every plugged VIF. -/
theorem InView.quietly {slot : Slot} (view : InView slot) {request : Request} {kind : Move}
    {phase : Phase} (allowed : Quietly slot.entry request kind phase)
    (unplugs : (request.at phase).unplugs) :
    ∀ plug ∈ slot.trace.plugs, plug.vifId ∈ (request.at phase).vifsToWork := by
  cases allowed with
  | ignored checking ignores => simp [Request.unplugs, Request.at] at unplugs
  | passed checking heeds => simp [Request.unplugs, Request.at] at unplugs
  | timedOut finding absent => simp [Request.unplugs, Request.at] at unplugs
  | failed working ex => simp [Request.unplugs, Request.at] at unplugs
  | returned waiting listed => simp [Request.unplugs, Request.at] at unplugs
  | gaveUp waiting ex => simp [Request.unplugs, Request.at] at unplugs
  | @found known finding listed =>
      intro plug plugged
      obtain ⟨entry, registered, _, named⟩ := view.entry plug plugged
      rw [listed] at registered
      cases registered
      rw [vifsToWork_workLeft]
      rw [vifIds, Dict.values, List.map_map] at named
      exact named

/-- The last section of a DEL keeps the plugged VIFs in view, as none is plugged. -/
theorem InView.unpluggedWritten {slot : Slot} (view : InView slot) {index : Nat}
    {request : Request} {registry : Locked Party (Option Entry)}
    (sent : slot.requests[index]? = some request) (deletes : request.command = .delete)
    (locking : request.phase = .locking) (value : registry.value = finishDelete slot.entry) :
    InView
      (Slot.advance
        { slot with
          registry
          trace := slot.trace.written slot.entry registry.value Flags.unplugged }
        index (request.at (.ended (.ok none)))) := by
  have nothing := view.unplugged_of_locking (List.mem_of_getElem? sent) deletes locking
  constructor
  · intro plug plugged
    have plugged : plug ∈ slot.trace.plugs := plugged
    rw [nothing] at plugged
    cases plugged
  · intro other _ _ plug plugged
    have plugged : plug ∈ slot.trace.plugs := plugged
    rw [nothing] at plugged
    cases plugged
  · intro entry listed told
    have written := value.symm.trans listed
    cases before : slot.entry with
    | none =>
        rw [before] at written
        cases written
    | some known =>
        rw [before, finishDelete, Option.ite_none_left_eq_some] at written
        obtain ⟨untold, ⟨⟩⟩ := written
        exact absurd told untold
  · exact view.watcher
  · apply view.removals_written rfl
    intro entry listed gone
    have removed := value.symm.trans gone
    rw [listed, finishDelete] at removed
    split at removed
    · rename_i told
      exact ⟨view.received entry listed told, nothing⟩
    · cases removed

/-- Saving a containerid changes nothing that is in view. -/
theorem InView.savedWritten {slot : Slot} (view : InView slot) (index : Nat)
    {request : Request} {registry : Locked Party (Option Entry)}
    (adds : request.command = .add)
    (value : registry.value = saveContainerid request.params.containerid slot.entry)
    (phase : Phase) :
    InView
      (Slot.advance
        { slot with
          registry
          trace := slot.trace.written slot.entry registry.value
            (Flags.saved request.params.containerid) }
        index (request.at phase)) := by
  constructor
  · intro plug plugged
    obtain ⟨entry, listed, unmarked, named⟩ := view.entry plug plugged
    have value : registry.value = _ := value
    rw [listed] at value
    exact ⟨_, value, unmarked, named⟩
  · intro other sentAfter unplugs
    rcases mem_requests_advance sentAfter with earlier | rfl
    · exact view.requests other earlier unplugs
    · simp [Request.unplugs, Request.at, adds] at unplugs
  · intro entry listed told
    have written := value.symm.trans listed
    cases before : slot.entry with
    | none =>
        rw [before] at written
        cases written
    | some known =>
        rw [before] at written
        cases written
        exact view.received known before told
  · exact view.watcher
  · apply view.removals_written rfl
    intro entry listed gone
    have removed := value.symm.trans gone
    rw [listed] at removed
    cases removed

/-- Taking the lock changes nothing that is in view. -/
theorem InView.relocked {slot : Slot} (view : InView slot)
    {registry : Locked Party (Option Entry)} (same : registry.value = slot.entry) :
    InView { slot with registry } := by
  have entry : Slot.entry { slot with registry } = slot.entry := same
  constructor
  · rw [entry]
    exact view.entry
  · exact view.requests
  · rw [entry]
    exact view.received
  · exact view.watcher
  · exact view.removals

theorem inView_step : PreservedBy slotStep KeepsView InView := by
  intro slot action after keeps view taken
  cases stepped_of_slotStep taken with
  | unannotated unnamed => exact view
  | present named =>
      refine ⟨view.entry, view.requests, view.received, ?_, ?_⟩
      · rintro pod ⟨⟩
      · exact view.removals
  | deleted pod =>
      have told (uid : String) (before : uid ∈ slot.trace.deletedUids) :
          uid ∈ (Cni.deleted slot pod).trace.deletedUids := List.mem_cons_of_mem _ before
      refine ⟨view.entry, view.requests, ?_, ?_, ?_⟩
      · intro entry listed received
        exact told _ (view.received entry listed received)
      · intro other busy
        simp only [Cni.deleted] at busy
        split at busy
        · cases busy
          exact List.mem_cons_self
        · cases busy
      · exact view.removals
  | watcherLocked same => exact view.relocked same
  | doneWritten busy value => exact view.doneWritten busy value keeps
  | deletedWritten busy value => exact view.deletedWritten busy value keeps
  | started command params podUid =>
      refine ⟨view.entry, ?_, view.received, view.watcher,
        view.removals⟩
      intro request sent unplugs
      rcases List.mem_append.mp sent with earlier | new
      · exact view.requests request earlier unplugs
      · rw [List.mem_singleton] at new
        subst request
        cases command <;> simp [Request.unplugs, Request.arrived] at unplugs
  | quiet sent allowed =>
      refine ⟨view.entry, ?_, view.received, view.watcher,
        view.removals⟩
      intro changed sentAfter unplugs
      rcases mem_requests_advance sentAfter with earlier | rfl
      · exact view.requests changed earlier unplugs
      · exact view.quietly allowed unplugs
  | worked sent working => exact view.worked sent working keeps
  | locked same => exact view.relocked same
  | saved sent adds locking value left => exact view.savedWritten _ adds value _
  | unplugged sent deletes locking value =>
      exact view.unpluggedWritten sent deletes locking value

/-- In every run whose steps keep the plugged VIFs in view, entries are removed only
after the `DELETED` event and with nothing plugged, and no flag is lost. -/
theorem handshake_kept {actions : List (String × Action)} {registry : Registry}
    (guarded : GuardedRun step (AtKey KeepsView) initial actions registry)
    (podName : String) : KeepsHandshake (registry podName) := by
  have view : InView (registry podName) := by
    apply guarded.invariant_keyed inView_step
    intro key
    constructor
    · rintro plug ⟨⟩
    · rintro request ⟨⟩
    · rintro entry ⟨⟩
    · rintro pod ⟨⟩
    · rintro removal ⟨⟩
  exact ⟨view.removals, flags_kept guarded.run_eq_some podName⟩

/-! ## A failed ADD -/

/-- The ADD at an index plugs one VIF and saves its containerid. -/
def plugged (index : Nat) (containerid : String) : List Action :=
  [.start .add (somePod containerid) "uid", .request index .find, .request index .work,
    .request index .lock, .request index .write]

/-- The DEL at an index unplugs one VIF. -/
def unplugged (index : Nat) (containerid : String) : List Action :=
  [.start .delete (somePod containerid) "uid", .request index .check, .request index .find,
    .request index .work, .request index .lock, .request index .write]

/-- An ADD times out, its DEL comes, another ADD plugs the VIF again, and then the pod
is deleted. -/
def addedAgain : List Action :=
  handled (.present (annotatedPod "uid" "port")) ++ plugged 0 "first" ++
    [.request 0 .giveUp] ++ unplugged 1 "first" ++ plugged 2 "second" ++
    handled (.deleted (annotatedPod "uid" "port"))

/-- The entry is removed although the second container has the VIF. -/
theorem addedAgain_removes :
    (run slotStep addedAgain {}).map (·.trace.removals) =
      some [⟨"uid", true, [⟨"port", "second"⟩]⟩] := by
  decide

/-- Not in every run is the handshake kept. -/
theorem handshake_not_always_kept :
    ¬∀ (actions : List (String × Action)) (registry : Registry),
      run step actions initial = some registry →
        ∀ podName, KeepsHandshake (registry podName) := by
  intro always
  obtain ⟨slot, reached, removals⟩ := Option.map_eq_some_iff.mp addedAgain_removes
  have concerned : ∀ action ∈ addedAgain, action.concerns somePodName := by
    simp [addedAgain, handled, plugged, unplugged, Action.concerns, somePodName,
      Params.podName, somePod, Pod.uniqueName, annotatedPod]
  have handshake := always _ _ (run_keyed initial reached concerned) somePodName
  rw [Function.update_self] at handshake
  have recorded : ⟨"uid", true, [⟨"port", "second"⟩]⟩ ∈ slot.trace.removals := by
    rw [removals]
    exact List.mem_singleton_self _
  cases (handshake.removals _ recorded).2

/-- A pod from its ADD to its DEL, which comes after the `DELETED` event. -/
def addedOnce : List Action :=
  handled (.present (annotatedPod "uid" "port")) ++ plugged 0 "container" ++
    handled (.deleted (annotatedPod "uid" "port")) ++ unplugged 1 "container"

/-- Its entry is removed in order. -/
theorem handshake_kept_once :
    ∃ registry, run step (addedOnce.map (somePodName, ·)) initial = some registry ∧
      (registry somePodName).trace.removals = [⟨"uid", true, []⟩] ∧
      KeepsHandshake (registry somePodName) := by
  have executed : (runIf slotStep KeepsView addedOnce {}).map (·.trace.removals) =
      some [⟨"uid", true, []⟩] := by decide
  obtain ⟨slot, reached, removals⟩ := Option.map_eq_some_iff.mp executed
  have concerned : ∀ action ∈ addedOnce, action.concerns somePodName := by
    simp [addedOnce, handled, plugged, unplugged, Action.concerns, somePodName,
      Params.podName, somePod, Pod.uniqueName, annotatedPod]
  have guarded := (guardedRun_of_runIf reached).keyed concerned initial rfl
  refine ⟨_, guarded.run_eq_some, ?_, handshake_kept guarded somePodName⟩
  rw [Function.update_self]
  exact removals

end KuryrKubernetes.Cni

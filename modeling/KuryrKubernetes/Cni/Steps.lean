import KuryrKubernetes.Cni.Registry

/-!
# What a step at one name can do

Every step of the system of one pod name, with the conditions under which it is
taken and the state it leads to.  Invariants are derived from this list.
-/

namespace KuryrKubernetes.Cni

open KuryrKubernetes.Data
open KuryrKubernetes.Transition

/-- The steps of a request that change its phase only. -/
inductive Quietly (entry : Option Entry) (request : Request) : Move → Phase → Prop where
  | ignored (checking : request.phase = .checking)
      (ignores : ignoresDelete entry request.params.containerid) :
      Quietly entry request .check (.ended (.ok none))
  | passed (checking : request.phase = .checking)
      (heeds : ignoresDelete entry request.params.containerid = false) :
      Quietly entry request .check .finding
  | found {known : Entry} (finding : request.phase = .finding) (listed : entry = some known) :
      Quietly entry request .find (workLeft known.pod known.vifs.items)
  | timedOut (finding : request.phase = .finding) (absent : entry = none) :
      Quietly entry request .timeout (.ended (.error .resourceNotReady))
  | failed {pod : Pod} {remaining : List (String × Vif)}
      (working : request.phase = .working pod remaining) (ex : PyException) :
      Quietly entry request (.workFails ex) (.ended (.error ex))
  | returned {known : Entry} (waiting : request.phase = .waiting) (listed : entry = some known) :
      Quietly entry request .wait (.ended (addResult known.vifs))
  | gaveUp (waiting : request.phase = .waiting) (ex : PyException) :
      Quietly entry request .giveUp (.ended (.error ex))

/-- The steps of the system. -/
inductive Stepped (slot : Slot) : Action → Slot → Prop where
  | unannotated {pod : Pod} (unnamed : pod.podState = none) : Stepped slot (.present pod) slot
  | present {pod : Pod} {state : PodState} (named : pod.podState = some state) :
      Stepped slot (.present pod)
        { slot with
          watcher := .done pod state.vifs
          trace := { slot.trace with seen := pod :: slot.trace.seen } }
  | deleted (pod : Pod) : Stepped slot (.deleted pod) (deleted slot pod)
  | watcherLocked {registry : Locked Party (Option Entry)} (same : registry.value = slot.entry) :
      Stepped slot .watcherLock { slot with registry }
  | doneWritten {pod : Pod} {vifs : Dict String Vif} {registry : Locked Party (Option Entry)}
      (busy : slot.watcher = .done pod vifs)
      (value : registry.value = onDone pod vifs slot.entry) :
      Stepped slot .watcherWrite
        { slot with
          registry
          watcher := .idle
          trace := slot.trace.written slot.entry registry.value Flags.done }
  | deletedWritten {pod : Pod} {registry : Locked Party (Option Entry)}
      (busy : slot.watcher = .deleted pod) (value : registry.value = onDeleted slot.entry) :
      Stepped slot .watcherWrite
        { slot with
          registry
          watcher := .idle
          trace := slot.trace.written slot.entry registry.value Flags.deleted }
  | started (command : Command) (params : Params) (podUid : String) :
      Stepped slot (.start command params podUid)
        { slot with requests := slot.requests ++ [.arrived command params podUid] }
  | quiet {index : Nat} {kind : Move} {request : Request} {phase : Phase}
      (sent : slot.requests[index]? = some request)
      (allowed : Quietly slot.entry request kind phase) :
      Stepped slot (.request index kind) (slot.advance index (request.at phase))
  | worked {index : Nat} {request : Request} {pod : Pod} {ifname : String} {vif : Vif}
      {rest : List (String × Vif)} (sent : slot.requests[index]? = some request)
      (working : request.phase = .working pod ((ifname, vif) :: rest)) :
      Stepped slot (.request index .work)
        { slot.advance index (request.worked pod ifname vif rest) with
          trace := slot.trace.called request.command request.params.containerid vif }
  | locked {index : Nat} {registry : Locked Party (Option Entry)}
      (same : registry.value = slot.entry) :
      Stepped slot (.request index .lock) { slot with registry }
  | saved {index : Nat} {request : Request} {phase : Phase}
      {registry : Locked Party (Option Entry)} (sent : slot.requests[index]? = some request)
      (adds : request.command = .add) (locking : request.phase = .locking)
      (value : registry.value = saveContainerid request.params.containerid slot.entry)
      (left : phase = .waiting ∨ phase = .ended (.error .keyError)) :
      Stepped slot (.request index .write)
        (Slot.advance
          { slot with
            registry
            trace := slot.trace.written slot.entry registry.value
              (Flags.saved request.params.containerid) }
          index (request.at phase))
  | unplugged {index : Nat} {request : Request} {registry : Locked Party (Option Entry)}
      (sent : slot.requests[index]? = some request) (deletes : request.command = .delete)
      (locking : request.phase = .locking) (value : registry.value = finishDelete slot.entry) :
      Stepped slot (.request index .write)
        (Slot.advance
          { slot with
            registry
            trace := slot.trace.written slot.entry registry.value Flags.unplugged }
          index (request.at (.ended (.ok none))))

theorem lock_eq_some {slot after : Slot} {party : Party} (taken : slot.lock party = some after) :
    ∃ registry : Locked Party (Option Entry),
      registry.value = slot.entry ∧ after = { slot with registry } := by
  obtain ⟨registry, acquired, rfl⟩ := Option.map_eq_some_iff.mp taken
  exact ⟨registry, Locked.value_acquire acquired, rfl⟩

theorem write_eq_some {slot after : Slot} {party : Party}
    {change : Option Entry → Option Entry} {flagChange : Option Flags → Option Flags}
    (taken : slot.write party change flagChange = some after) :
    ∃ registry : Locked Party (Option Entry), registry.value = change slot.entry ∧
      after = { slot with
        registry, trace := slot.trace.written slot.entry registry.value flagChange } := by
  obtain ⟨registry, committed, rfl⟩ := Option.map_eq_some_iff.mp taken
  exact ⟨registry, Locked.value_commit committed, rfl⟩

theorem stepped_of_move {slot after : Slot} {index : Nat} {request : Request} {kind : Move}
    (sent : slot.requests[index]? = some request)
    (taken : move slot index request kind = some after) :
    Stepped slot (.request index kind) after := by
  cases kind with
  | check =>
      simp only [move] at taken
      split at taken
      · rename_i checking
        split at taken
        · rename_i ignores
          cases taken
          exact .quiet sent (.ignored checking ignores)
        · rename_i heeds
          cases taken
          exact .quiet sent (.passed checking (by simpa using heeds))
      · cases taken
  | find =>
      simp only [move] at taken
      split at taken
      · rename_i finding listed
        cases taken
        exact .quiet sent (.found finding listed)
      · cases taken
  | timeout =>
      simp only [move] at taken
      split at taken
      · rename_i finding absent
        cases taken
        exact .quiet sent (.timedOut finding absent)
      · cases taken
  | work =>
      simp only [move] at taken
      split at taken
      · rename_i working
        cases taken
        exact .worked sent working
      · cases taken
  | workFails ex =>
      simp only [move] at taken
      split at taken
      · rename_i working
        cases taken
        exact .quiet sent (.failed working ex)
      · cases taken
  | lock =>
      simp only [move] at taken
      split at taken
      · obtain ⟨registry, same, rfl⟩ := lock_eq_some taken
        exact .locked same
      · cases taken
  | write =>
      simp only [move] at taken
      split at taken
      · rename_i locking adds
        obtain ⟨written, committed, rfl⟩ := Option.map_eq_some_iff.mp taken
        obtain ⟨registry, value, rfl⟩ := write_eq_some committed
        apply Stepped.saved sent adds locking value
        cases slot.entry.isSome with
        | true => exact .inl rfl
        | false => exact .inr rfl
      · rename_i locking deletes
        obtain ⟨written, committed, rfl⟩ := Option.map_eq_some_iff.mp taken
        obtain ⟨registry, value, rfl⟩ := write_eq_some committed
        exact .unplugged sent deletes locking value
      · cases taken
  | wait =>
      simp only [move] at taken
      split at taken
      · rename_i waiting listed
        simp only [Option.ite_none_right_eq_some] at taken
        obtain ⟨_, ⟨⟩⟩ := taken
        exact .quiet sent (.returned waiting listed)
      · cases taken
  | giveUp =>
      simp only [move] at taken
      split at taken
      · rename_i waiting _
        cases taken
        exact .quiet sent (.gaveUp waiting _)
      · rename_i waiting _
        simp only [Option.ite_none_left_eq_some] at taken
        obtain ⟨_, ⟨⟩⟩ := taken
        exact .quiet sent (.gaveUp waiting _)
      · cases taken

/-- Every step is in the list. -/
theorem stepped_of_slotStep {slot after : Slot} {action : Action}
    (taken : slotStep slot action = some after) : Stepped slot action after := by
  cases action with
  | present pod =>
      simp only [slotStep] at taken
      split at taken
      · cases taken
        cases named : pod.podState with
        | none =>
            rw [Cni.present, named]
            exact .unannotated named
        | some state =>
            rw [Cni.present, named]
            exact .present named
      · cases taken
  | deleted pod =>
      simp only [slotStep] at taken
      split at taken
      · cases taken
        exact .deleted pod
      · cases taken
  | watcherLock =>
      simp only [slotStep] at taken
      split at taken
      · cases taken
      · obtain ⟨registry, same, rfl⟩ := lock_eq_some taken
        exact .watcherLocked same
  | watcherWrite =>
      simp only [slotStep] at taken
      split at taken
      · cases taken
      · rename_i busy
        obtain ⟨written, committed, rfl⟩ := Option.map_eq_some_iff.mp taken
        obtain ⟨registry, value, rfl⟩ := write_eq_some committed
        exact .doneWritten busy value
      · rename_i busy
        obtain ⟨written, committed, rfl⟩ := Option.map_eq_some_iff.mp taken
        obtain ⟨registry, value, rfl⟩ := write_eq_some committed
        exact .deletedWritten busy value
  | start command params podUid =>
      cases taken
      exact .started command params podUid
  | request index kind =>
      obtain ⟨request, sent, taken⟩ := Option.bind_eq_some_iff.mp taken
      exact stepped_of_move sent taken

/-! ## Sections that keep the pod -/

/-- A section makes no entry, and changes neither the pod nor the VIFs of one. -/
def KeepsPod (change : Option Entry → Option Entry) : Prop :=
  ∀ before after, change before = some after →
    ∃ entry, before = some entry ∧ after.pod = entry.pod ∧ after.vifs = entry.vifs

theorem onDeleted_keepsPod : KeepsPod onDeleted := by
  intro before after written
  cases before with
  | none => cases written
  | some entry =>
      simp only [onDeleted, Option.ite_none_left_eq_some] at written
      obtain ⟨_, ⟨⟩⟩ := written
      exact ⟨entry, rfl, rfl, rfl⟩

theorem saveContainerid_keepsPod (containerid : String) :
    KeepsPod (saveContainerid containerid) := by
  intro before after written
  cases before with
  | none => cases written
  | some entry =>
      cases written
      exact ⟨entry, rfl, rfl, rfl⟩

theorem finishDelete_keepsPod : KeepsPod finishDelete := by
  intro before after written
  cases before with
  | none => cases written
  | some entry =>
      simp only [finishDelete, Option.ite_none_left_eq_some] at written
      obtain ⟨_, ⟨⟩⟩ := written
      exact ⟨entry, rfl, rfl, rfl⟩

/-- What `on_done` leaves: a new entry, or the old pod with old or new VIFs. -/
theorem onDone_eq_some {pod : Pod} {vifs : Dict String Vif} {before : Option Entry}
    {after : Entry} (written : onDone pod vifs before = some after) :
    (before = none ∧ after = { pod, vifs }) ∨
      ∃ entry, before = some entry ∧ after.pod = entry.pod ∧
        after.delReceived = entry.delReceived ∧ after.vifUnplugged = entry.vifUnplugged ∧
        (after.vifs = entry.vifs ∨ after.vifs = vifs) := by
  cases before with
  | none =>
      cases written
      exact .inl ⟨rfl, rfl⟩
  | some entry =>
      right
      refine ⟨entry, rfl, ?_⟩
      rw [onDone] at written
      split at written
      · cases written
        exact ⟨rfl, rfl, rfl, .inr rfl⟩
      · cases written
        exact ⟨rfl, rfl, rfl, .inl rfl⟩

/-! ## Requests of a later state -/

theorem mem_requests_advance {slot : Slot} {index : Nat} {changed request : Request}
    (member : request ∈ (slot.advance index changed).requests) :
    request ∈ slot.requests ∨ request = changed :=
  List.mem_or_eq_of_mem_set member

end KuryrKubernetes.Cni

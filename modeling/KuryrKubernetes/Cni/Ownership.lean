import KuryrKubernetes.Cni.Removal

/-!
# VIFs of other containers

A DEL compares its container with the saved one before it disconnects anything, in
order to leave alone what a later ADD plugged.  The comparison is made without the
lock, and an ADD saves its container only after it plugged the VIFs.
-/

namespace KuryrKubernetes.Cni

open KuryrKubernetes.Data
open KuryrKubernetes.Transition

/-! ## The law of disconnects -/

/-- No DEL disconnected a VIF that was plugged for another container. -/
def UnplugsOwn (slot : Slot) : Prop :=
  ∀ unplug ∈ slot.trace.unplugs, unplug.2.containerid = unplug.1

/-- A DEL that passed its check is going to disconnect a VIF, or may be. -/
def Request.comesTo (request : Request) (vifId : String) : Bool :=
  request.command = .delete &&
    match request.phase with
    | .finding => true
    | .working _ remaining => vifId ∈ remaining.map (·.2.id)
    | _ => false

/-- A step that leaves VIFs to their owners: a DEL that finds a VIF plugged for another
container is ignored, and an ADD plugs no VIF that a DEL of another container comes
to. -/
def KeepsOwners (slot : Slot) : Action → Prop
  | .request index .check =>
      ∀ request ∈ slot.requests[index]?, ∀ plug ∈ slot.trace.plugs,
        plug.containerid = request.params.containerid ∨
          ignoresDelete slot.entry request.params.containerid
  | .request index .work =>
      ∀ request ∈ slot.requests[index]?, request.command = .add →
        ∀ item ∈ request.toWork.head?, ∀ other ∈ slot.requests, other.comesTo item.2.id →
          other.params.containerid = request.params.containerid
  | _ => True

instance (slot : Slot) (action : Action) : Decidable (KeepsOwners slot action) :=
  match action with
  | .request index .check => inferInstanceAs (Decidable (∀ request ∈ slot.requests[index]?, _))
  | .request index .work => inferInstanceAs (Decidable (∀ request ∈ slot.requests[index]?, _))
  | .present _ | .deleted _ | .watcherLock | .watcherWrite | .start .. | .request _ .find
  | .request _ .timeout | .request _ (.workFails _) | .request _ .lock | .request _ .write
  | .request _ .wait | .request _ .giveUp => .isTrue trivial

/-! ## Owners -/

/-- The VIFs that a DEL comes to were plugged for its container. -/
structure OwnersAgree (slot : Slot) : Prop where
  comesTo : ∀ request ∈ slot.requests, ∀ plug ∈ slot.trace.plugs,
    request.comesTo plug.vifId → plug.containerid = request.params.containerid
  unplugs : UnplugsOwn slot

/-- What matters is that nothing gets plugged and no DEL comes to more. -/
theorem OwnersAgree.mono {before after : Slot} (agree : OwnersAgree before)
    (plugs : after.trace.plugs = before.trace.plugs)
    (unplugs : after.trace.unplugs = before.trace.unplugs)
    (requests : ∀ request ∈ after.requests, request ∈ before.requests ∨
      ∀ plug ∈ before.trace.plugs, request.comesTo plug.vifId →
        plug.containerid = request.params.containerid) :
    OwnersAgree after := by
  constructor
  · intro request sent plug plugged
    rw [plugs] at plugged
    rcases requests request sent with earlier | agrees
    · exact agree.comesTo request earlier plug plugged
    · exact agrees plug plugged
  · intro unplug recorded
    rw [unplugs] at recorded
    exact agree.unplugs unplug recorded

/-- A phase change of a DEL agrees with the owners. -/
theorem OwnersAgree.quietly {slot : Slot} (agree : OwnersAgree slot) {request : Request}
    {kind : Move} {phase : Phase} (sent : request ∈ slot.requests)
    (allowed : Quietly slot.entry request kind phase)
    (checked : kind = .check → ∀ plug ∈ slot.trace.plugs,
      plug.containerid = request.params.containerid ∨
        ignoresDelete slot.entry request.params.containerid) :
    ∀ plug ∈ slot.trace.plugs, (request.at phase).comesTo plug.vifId →
      plug.containerid = request.params.containerid := by
  intro plug plugged comes
  cases allowed with
  | passed checking heeds =>
      rcases checked rfl plug plugged with own | ignores
      · exact own
      · rw [heeds] at ignores
        cases ignores
  | found finding listed =>
      apply agree.comesTo request sent plug plugged
      simp only [Request.comesTo, Request.at, Bool.and_eq_true] at comes
      have deletes : request.command = .delete := of_decide_eq_true comes.1
      simp [Request.comesTo, deletes, finding]
  | ignored checking ignores => simp [Request.comesTo, Request.at] at comes
  | timedOut finding absent => simp [Request.comesTo, Request.at] at comes
  | failed working ex => simp [Request.comesTo, Request.at] at comes
  | returned waiting listed => simp [Request.comesTo, Request.at] at comes
  | gaveUp waiting ex => simp [Request.comesTo, Request.at] at comes

/-- After a call the request comes to the remaining VIFs only. -/
theorem comesTo_worked {request : Request} {pod : Pod} {ifname : String} {vif : Vif}
    {rest : List (String × Vif)}
    (working : request.phase = .working pod ((ifname, vif) :: rest)) {vifId : String}
    (comes : (request.worked pod ifname vif rest).comesTo vifId) : request.comesTo vifId := by
  cases rest with
  | nil => simp [Request.comesTo, Request.worked, workLeft] at comes
  | cons item rest =>
      simp only [Request.comesTo, Request.worked, workLeft, Bool.and_eq_true] at comes
      have listed : vifId ∈ (item :: rest).map (·.2.id) := of_decide_eq_true comes.2
      simp only [Request.comesTo, working, Bool.and_eq_true]
      exact ⟨comes.1, decide_eq_true (List.mem_cons_of_mem _ listed)⟩

/-- A call of the driver agrees with the owners. -/
theorem OwnersAgree.worked {slot : Slot} (agree : OwnersAgree slot) {index : Nat}
    {request : Request} {pod : Pod} {ifname : String} {vif : Vif}
    {rest : List (String × Vif)} (sent : slot.requests[index]? = some request)
    (working : request.phase = .working pod ((ifname, vif) :: rest))
    (keeps : KeepsOwners slot (.request index .work)) :
    OwnersAgree
      { slot.advance index (request.worked pod ifname vif rest) with
        trace := slot.trace.called request.command request.params.containerid vif } := by
  have member := List.mem_of_getElem? sent
  have comesLess (other : Request)
      (sentAfter : other ∈ (slot.advance index (request.worked pod ifname vif rest)).requests)
      (plug : Plug) (before : plug ∈ slot.trace.plugs) (comes : other.comesTo plug.vifId) :
      plug.containerid = other.params.containerid := by
    rcases mem_requests_advance sentAfter with earlier | rfl
    · exact agree.comesTo other earlier plug before comes
    · exact agree.comesTo request member plug before (comesTo_worked working comes)
  cases command : request.command with
  | add =>
      constructor
      · intro other sentAfter plug plugged comes
        rcases List.mem_cons.mp plugged with rfl | earlier
        · rcases mem_requests_advance sentAfter with before | rfl
          · have head : (ifname, vif) ∈ request.toWork.head? := by
              rw [Request.toWork, working]
              rfl
            exact (keeps request sent command (ifname, vif) head other before comes).symm
          · rfl
        · exact comesLess other sentAfter plug (List.mem_of_mem_filter earlier) comes
      · exact agree.unplugs
  | delete =>
      constructor
      · intro other sentAfter plug plugged comes
        exact comesLess other sentAfter plug (List.mem_of_mem_filter plugged) comes
      · intro unplug recorded
        rcases List.mem_append.mp recorded with new | earlier
        · obtain ⟨plug, hit, rfl⟩ := List.mem_map.mp new
          obtain ⟨plugged, same⟩ := List.mem_filter.mp hit
          apply agree.comesTo request member plug plugged
          simp [Request.comesTo, command, working, of_decide_eq_true same]
        · exact agree.unplugs unplug earlier

theorem ownersAgree_step : PreservedBy slotStep KeepsOwners OwnersAgree := by
  intro slot action after keeps agree taken
  cases stepped_of_slotStep taken with
  | unannotated unnamed => exact agree
  | present named => exact agree.mono rfl rfl fun _ sent => .inl sent
  | deleted pod => exact agree.mono rfl rfl fun _ sent => .inl sent
  | watcherLocked same => exact agree.mono rfl rfl fun _ sent => .inl sent
  | doneWritten busy value => exact agree.mono rfl rfl fun _ sent => .inl sent
  | deletedWritten busy value => exact agree.mono rfl rfl fun _ sent => .inl sent
  | started command params podUid =>
      refine agree.mono rfl rfl ?_
      intro request sent
      rcases List.mem_append.mp sent with earlier | new
      · exact .inl earlier
      · rw [List.mem_singleton] at new
        subst request
        right
        intro plug _ comes
        cases command <;> simp [Request.comesTo, Request.arrived] at comes
  | @quiet index kind request phase sent allowed =>
      refine agree.mono rfl rfl ?_
      intro changed sentAfter
      rcases mem_requests_advance sentAfter with earlier | rfl
      · exact .inl earlier
      · right
        apply agree.quietly (List.mem_of_getElem? sent) allowed
        rintro rfl
        exact keeps request sent
  | worked sent working => exact agree.worked sent working keeps
  | locked same => exact agree.mono rfl rfl fun _ sent => .inl sent
  | @saved index request phase registry sent adds locking value left =>
      refine agree.mono rfl rfl ?_
      intro changed sentAfter
      rcases mem_requests_advance sentAfter with earlier | rfl
      · exact .inl earlier
      · right
        intro plug _ comes
        simp [Request.comesTo, Request.at, adds] at comes
  | @unplugged index request registry sent deletes locking value =>
      refine agree.mono rfl rfl ?_
      intro changed sentAfter
      rcases mem_requests_advance sentAfter with earlier | rfl
      · exact .inl earlier
      · right
        intro plug _ comes
        simp [Request.comesTo, Request.at] at comes

/-- In every run whose steps leave VIFs to their owners, no DEL disconnects a VIF that
was plugged for another container. -/
theorem deletes_unplug_own {actions : List (String × Action)} {registry : Registry}
    (guarded : GuardedRun step (AtKey KeepsOwners) initial actions registry)
    (podName : String) : UnplugsOwn (registry podName) := by
  have agree : OwnersAgree (registry podName) := by
    apply guarded.invariant_keyed ownersAgree_step
    intro key
    constructor
    · rintro request ⟨⟩
    · rintro unplug ⟨⟩
  exact agree.unplugs

/-! ## An ADD that has not saved its container -/

/-- The second container plugs the VIF, and before it is saved the DEL of the first
one passes its check. -/
def deletedUnsaved : List Action :=
  handled (.present (annotatedPod "uid" "port")) ++
    [.start .add (somePod "second") "uid", .request 0 .find, .request 0 .work,
      .start .delete (somePod "first") "uid", .request 1 .check, .request 1 .find,
      .request 1 .work]

/-- The DEL of the first container unplugs the second. -/
theorem deletedUnsaved_unplugs :
    (run slotStep deletedUnsaved {}).map (·.trace.unplugs) =
      some [("first", ⟨"port", "second"⟩)] := by
  decide

/-- Not in every run do DELs leave VIFs to their owners. -/
theorem deletes_not_always_unplug_own :
    ¬∀ (actions : List (String × Action)) (registry : Registry),
      run step actions initial = some registry →
        ∀ podName, UnplugsOwn (registry podName) := by
  intro always
  obtain ⟨slot, reached, unplugs⟩ := Option.map_eq_some_iff.mp deletedUnsaved_unplugs
  have concerned : ∀ action ∈ deletedUnsaved, action.concerns somePodName := by
    simp [deletedUnsaved, handled, Action.concerns, somePodName, Params.podName, somePod,
      Pod.uniqueName, annotatedPod]
  have own := always _ _ (run_keyed initial reached concerned) somePodName
  rw [Function.update_self] at own
  have recorded : ("first", ⟨"port", "second"⟩) ∈ slot.trace.unplugs := by
    rw [unplugs]
    exact List.mem_singleton_self _
  have same := own _ recorded
  revert same
  decide

/-- Two containers one after the other, with a DEL of the first that comes again while
the second is connected. -/
def deletedTwice : List Action :=
  handled (.present (annotatedPod "uid" "port")) ++ plugged 0 "first" ++
    unplugged 1 "first" ++ plugged 2 "second" ++
    [.start .delete (somePod "first") "uid", .request 3 .check]

/-- The repeated DEL unplugs nothing. -/
theorem deletes_unplug_own_twice :
    ∃ registry, run step (deletedTwice.map (somePodName, ·)) initial = some registry ∧
      (registry somePodName).trace.plugs = [⟨"port", "second"⟩] ∧
      UnplugsOwn (registry somePodName) := by
  have executed : (runIf slotStep KeepsOwners deletedTwice {}).map (·.trace.plugs) =
      some [⟨"port", "second"⟩] := by decide
  obtain ⟨slot, reached, plugs⟩ := Option.map_eq_some_iff.mp executed
  have concerned : ∀ action ∈ deletedTwice, action.concerns somePodName := by
    simp [deletedTwice, handled, plugged, unplugged, Action.concerns, somePodName,
      Params.podName, somePod, Pod.uniqueName, annotatedPod]
  have guarded := (guardedRun_of_runIf reached).keyed concerned initial rfl
  refine ⟨_, guarded.run_eq_some, ?_, deletes_unplug_own guarded somePodName⟩
  rw [Function.update_self]
  exact plugs

end KuryrKubernetes.Cni
